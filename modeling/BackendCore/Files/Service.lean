import BackendCore.Lib.Table
import BackendCore.Shared.Errors

/-!
# Files

`core/files/service.py` and `modules/commerce/product_images/service.py`, with the unit
of work around them.  Rows belong to the transaction of the request, bytes go to the
storage backend at once.  A request is a flow of single steps, and every step may fail:
a guard or a validation that raises, a database or storage error, a failed commit, or
an exception of the code around the calls.  A failed storage call may have had its
effect.  Events and the ignored client content type are left out.
-/

set_option autoImplicit false

namespace BackendCore.Files

open BackendCore.Python

abbrev Bytes := List UInt8

/-! ## Rows -/

def storageKey (tenantId fileId : Uuid) : String :=
  Uuid.toStr tenantId ++ "/" ++ Uuid.toStr fileId

/-- A row of `files`; its storage key is the one its upload made. -/
structure StoredFile where
  id : Uuid
  tenantId : Uuid
  storageKey : String
  contentType : String
  byteSize : Nat
  checksumSha256 : String
  originalFilename : Option String
  keyed : storageKey = Files.storageKey tenantId id
  deriving DecidableEq

structure ProductImage where
  id : Uuid
  tenantId : Uuid
  productId : Uuid
  fileId : Uuid
  thumbnailFileId : Option Uuid
  position : Int
  altText : Option String
  deriving DecidableEq

structure Tables where
  files : Table StoredFile.id
  images : Table ProductImage.id

/-! ## The steps of a request -/

/-- `addFile` carries the bytes of the upload, for the history of the world. -/
inductive Flow where
  | done
  | raise (error : Exc)
  | guard (permission : String) (next : Flow)
  | ensureExists (productId : Uuid) (next : Flow)
  | getFile (fileId : Uuid) (next : StoredFile → Flow)
  | addFile (row : StoredFile) (data : Bytes) (next : Flow)
  | deleteFile (row : StoredFile) (next : Flow)
  | getImage (imageId : Uuid) (next : ProductImage → Flow)
  | addImage (row : ProductImage) (next : Flow)
  | deleteImage (row : ProductImage) (next : Flow)
  | put (key : String) (data : Bytes) (next : Flow)
  | fetch (key : String) (next : Bytes → Flow)
  | remove (key : String) (next : Flow)
  | generate (data : Bytes) (maxEdge : Int) (next : Bytes → String → Flow)

/-- The settings, the digest and the `isprintable` of the filename's characters. -/
structure Env where
  maxUploadBytes : Nat
  allowedContentTypes : List String
  thumbnailMaxEdge : Int
  sha256 : Bytes → String
  isPrintable : Char → Bool

/-! ## The services -/

def sniffContentType (data : Bytes) : Option String :=
  if data.take 3 = [0xff, 0xd8, 0xff] then some "image/jpeg"
  else if data.take 8 = [0x89, 0x50, 0x4e, 0x47, 0x0d, 0x0a, 0x1a, 0x0a] then some "image/png"
  else if data.take 6 = [0x47, 0x49, 0x46, 0x38, 0x37, 0x61] ∨
      data.take 6 = [0x47, 0x49, 0x46, 0x38, 0x39, 0x61] then some "image/gif"
  else if data.take 4 = [0x52, 0x49, 0x46, 0x46] ∧
      (data.drop 8).take 4 = [0x57, 0x45, 0x42, 0x50] then some "image/webp"
  else none

def maxFilenameLength : Nat := 255

def sanitizeFilename (env : Env) (name : Option String) : Option String :=
  match name with
  | none => none
  | some name =>
    if name = "" then none
    else
      let slashed := name.toList.map fun c => if c = '\\' then '/' else c
      let basename := (slashed.reverse.takeWhile (· ≠ '/')).reverse
      let cleaned := stripWhere isSpaceChar (basename.filter fun c =>
        env.isPrintable c && c ≠ '"' && c ≠ '\r' && c ≠ '\n')
      let kept := cleaned.take maxFilenameLength
      if kept = [] then none else some (String.ofList kept)

section Services

variable (env : Env) (tenantId : Uuid)

def newFile (fileId : Uuid) (filename : Option String) (contentType : String) (data : Bytes) :
    StoredFile where
  id := fileId
  tenantId := tenantId
  storageKey := storageKey tenantId fileId
  contentType := contentType
  byteSize := data.length
  checksumSha256 := env.sha256 data
  originalFilename := sanitizeFilename env filename
  keyed := rfl

/-- `FileService.upload`; the id is the `new_uuid7()` of the call. -/
def upload (fileId : Uuid) (filename : Option String) (data : Bytes) (next : StoredFile → Flow) :
    Flow :=
  .guard "files.file:upload"
    (if data = [] then .raise (.invariantViolationError "uploaded file is empty")
    else if env.maxUploadBytes < data.length then
      .raise (.invariantViolationError "uploaded file exceeds the maximum allowed size")
    else
      match sniffContentType data with
      | none => .raise (.invariantViolationError "unsupported file type (allowed: images)")
      | some contentType =>
        if contentType ∉ env.allowedContentTypes then
          .raise (.invariantViolationError "unsupported file type (allowed: images)")
        else
          let stored := newFile env tenantId fileId filename contentType data
          .addFile stored data (.put stored.storageKey data (next stored)))

def createThumbnail (fileId sourceFileId : Uuid) (maxEdge : Option Int)
    (next : StoredFile → Flow) : Flow :=
  .getFile sourceFileId fun source =>
    .fetch source.storageKey fun original =>
      .generate original (maxEdge.getD env.thumbnailMaxEdge) fun thumbBytes _ =>
        upload env tenantId fileId none thumbBytes next

def delete (fileId : Uuid) (next : Flow) : Flow :=
  .guard "files.file:delete"
    (.getFile fileId fun stored =>
      .deleteFile stored (.remove stored.storageKey next))

/-- `ProductImageService.attach`, with the ids of the two files and of the image. -/
def attach (fileId thumbnailId imageId productId : Uuid) (filename : Option String)
    (data : Bytes) (altText : Option String) (position : Int) (next : Flow) : Flow :=
  .guard "commerce.product_image:manage"
    (.ensureExists productId
      (upload env tenantId fileId filename data fun stored =>
        createThumbnail env tenantId thumbnailId stored.id none fun thumbnail =>
          .addImage ⟨imageId, tenantId, productId, stored.id, some thumbnail.id, position, altText⟩
            next))

/-- `ProductImageService.remove`. -/
def removeImage (imageId : Uuid) (next : Flow) : Flow :=
  .guard "commerce.product_image:manage"
    (.getImage imageId fun image =>
      .deleteImage image
        (match image.thumbnailFileId with
        | none => delete image.fileId next
        | some thumbnailFileId => delete thumbnailFileId (delete image.fileId next)))

end Services

inductive Call where
  | upload (fileId : Uuid) (filename : Option String) (data : Bytes)
  | createThumbnail (fileId sourceFileId : Uuid) (maxEdge : Option Int)
  | delete (fileId : Uuid)
  | attach (fileId thumbnailId imageId productId : Uuid) (filename : Option String)
      (data : Bytes) (altText : Option String) (position : Int)
  | remove (imageId : Uuid)

def Call.flow (env : Env) (tenantId : Uuid) (next : Flow) : Call → Flow
  | .upload fileId filename data => Files.upload env tenantId fileId filename data fun _ => next
  | .createThumbnail fileId sourceFileId maxEdge =>
    Files.createThumbnail env tenantId fileId sourceFileId maxEdge fun _ => next
  | .delete fileId => Files.delete fileId next
  | .attach fileId thumbnailId imageId productId filename data altText position =>
    Files.attach env tenantId fileId thumbnailId imageId productId filename data altText
      position next
  | .remove imageId => removeImage imageId next

/-- The calls of one request, in one transaction. -/
def requestFlow (env : Env) (tenantId : Uuid) (calls : List Call) : Flow :=
  calls.foldr (fun call next => call.flow env tenantId next) .done

/-! ## The world -/

/-- A request in its transaction: the rows it sees, the bytes of the uploads behind them,
and the storage keys it has deleted. -/
structure Live where
  tenantId : Uuid
  flow : Flow
  tables : Tables
  uploaded : Uuid → Option Bytes
  removed : List String

/-- The committed rows, the bytes of the uploads behind them, and the storage backend. -/
structure World where
  tables : Tables
  uploaded : Uuid → Option Bytes
  objects : String → Option Bytes
  live : Option Live

def World.empty : World := ⟨⟨.empty, .empty⟩, fun _ => none, fun _ => none, none⟩

/-- A request begins; the next step of the request succeeds, with `image` as the answer of the
thumbnailer if it is asked; or the step fails, and leaves something or nothing under the key
of a storage call. -/
inductive Event where
  | begin (tenantId : Uuid) (calls : List Call)
  | advance (image : Bytes × String)
  | fail (left : Option Bytes)

def World.goto (world : World) (live : Live) (flow : Flow) : World :=
  { world with live := some { live with flow := flow } }

/-- `__aenter__`. -/
def World.begin (world : World) (tenantId : Uuid) (flow : Flow) : World :=
  { world with live := some (Live.mk tenantId flow world.tables world.uploaded []) }

/-- `__aexit__` with an exception. -/
def World.rollback (world : World) : World := { world with live := none }

/-- `__aexit__` without one. -/
def World.commit (world : World) (live : Live) : World :=
  ⟨live.tables, live.uploaded, world.objects, none⟩

def ofTenant {R : Type} (tenant : R → Uuid) (tenantId : Uuid) (found : Option R) : Option R :=
  found.filter fun row => tenant row = tenantId

def World.advance (world : World) (image : Bytes × String) (live : Live) : World :=
  match live.flow with
  | .done => world.commit live
  | .raise _ => world.rollback
  | .guard _ next => world.goto live next
  | .ensureExists _ next => world.goto live next
  | .getFile fileId next =>
    match ofTenant StoredFile.tenantId live.tenantId (live.tables.files.get fileId) with
    | none => world.goto live
        (.raise (.notFoundError ("StoredFile " ++ Uuid.toStr fileId ++ " not found")))
    | some row => world.goto live (next row)
  | .addFile row data next =>
    if (live.tables.files.get row.id).isSome then world.goto live (.raise .integrityError)
    else
      { world with live := some { live with
          flow := next
          tables := { live.tables with files := live.tables.files.insertNew row }
          uploaded := Function.update live.uploaded row.id (some data) } }
  | .deleteFile row next =>
    if live.tables.files.get row.id = some row then
      { world with live := some { live with
          flow := next
          tables := { live.tables with files := live.tables.files.erase row.id } } }
    else world.goto live (.raise (.unexpected "InvalidRequestError"))
  | .getImage imageId next =>
    match ofTenant ProductImage.tenantId live.tenantId (live.tables.images.get imageId) with
    | none => world.goto live
        (.raise (.notFoundError ("ProductImage " ++ Uuid.toStr imageId ++ " not found")))
    | some row => world.goto live (next row)
  | .addImage row next =>
    if (live.tables.images.get row.id).isSome then world.goto live (.raise .integrityError)
    else
      { world with live := some { live with
          flow := next
          tables := { live.tables with images := live.tables.images.insertNew row } } }
  | .deleteImage row next =>
    if live.tables.images.get row.id = some row then
      { world with live := some { live with
          flow := next
          tables := { live.tables with images := live.tables.images.erase row.id } } }
    else world.goto live (.raise (.unexpected "InvalidRequestError"))
  | .put key data next =>
    { world with
      objects := Function.update world.objects key (some data)
      live := some { live with flow := next } }
  | .fetch key next =>
    match world.objects key with
    | none => world.goto live (.raise (.unexpected "StorageError"))
    | some data => world.goto live (next data)
  | .remove key next =>
    { world with
      objects := Function.update world.objects key none
      live := some { live with flow := next, removed := key :: live.removed } }
  | .generate _ _ next => world.goto live (next image.1 image.2)

/-- What a failing step did to the backend. -/
def World.partly (world : World) (left : Option Bytes) (live : Live) : World :=
  match live.flow with
  | .put key _ _ => { world with objects := Function.update world.objects key left }
  | .remove key _ =>
    match left with
    | none => { world with objects := Function.update world.objects key none }
    | some _ => world
  | _ => world

def World.step (env : Env) (world : World) (event : Event) : World :=
  match event, world.live with
  | .begin tenantId calls, none => world.begin tenantId (requestFlow env tenantId calls)
  | .advance image, some live => world.advance image live
  | .fail left, some live => (world.partly left live).rollback
  | _, _ => world

def World.run (env : Env) (events : List Event) (world : World) : World :=
  events.foldl (World.step env) world

/-- `FileService.get` of a permitted caller. -/
def World.get (world : World) (tenantId fileId : Uuid) : Except Exc StoredFile :=
  match ofTenant StoredFile.tenantId tenantId (world.tables.files.get fileId) with
  | none => .error (.notFoundError ("StoredFile " ++ Uuid.toStr fileId ++ " not found"))
  | some row => .ok row

/-- `FileService.open` of a permitted caller, with a backend that answers. -/
def World.open (world : World) (tenantId fileId : Uuid) : Except Exc (StoredFile × Bytes) :=
  match world.get tenantId fileId with
  | .error raised => .error raised
  | .ok stored =>
    match world.objects stored.storageKey with
    | none => .error (.unexpected "StorageError")
    | some data => .ok (stored, data)

end BackendCore.Files
