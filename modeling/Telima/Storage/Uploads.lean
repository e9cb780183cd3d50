import Telima.Data.PosixPath

/-!
# Uploads

`LocalDiskStorageProvider` writes an uploaded file below a folder of its caller, under a fresh name with
the extension of the name the client gave.  The extension is any text after the last dot, and may hold
separators; nothing is written outside of the folder (`uploads_stay_in_folder`).
-/

namespace Telima.Storage

open PosixPath

/-- `path.join` of two paths -/
def joinPaths (base key : String) : String := String.ofList (join [base.toList, key.toList])

/-- What `uuidv4()` returns. -/
structure Uuid where
  text : String
  length_eq : text.length = 36
  chars : ∀ c ∈ text.toList, c ∈ "0123456789abcdef-".toList

/-- The file of a request, as multer reads it. -/
structure File where
  buffer : List UInt8
  originalname : String
  mimetype : String
  deriving DecidableEq

structure UploadParams where
  buffer : List UInt8
  originalName : String
  mimeType : String
  folder : String

structure UploadedFileResult where
  url : String
  key : String
  deriving DecidableEq

/-- What `upload` does on the disk. -/
inductive DiskCall
  | mkdirSync (path : String)
  | writeFileSync (path : String) (buffer : List UInt8)
  deriving DecidableEq

/-- `basePath` and `baseUrl` are the values of `STORAGE_LOCAL_PATH` and `APP_URL`. -/
structure LocalDiskStorageProvider where
  basePath : String := "./uploads"
  baseUrl : String := "http://localhost:3000"

/-- `originalName.split('.').pop() ?? 'bin'` -/
def extension (originalName : String) : String :=
  ((originalName.toList.splitOn '.').getLast?.map String.ofList).getD "bin"

/-- The calls on the disk in their order, up to the first that throws, and the result when none does. -/
def LocalDiskStorageProvider.upload (provider : LocalDiskStorageProvider) (existsSync : String → Bool)
    (uuid : Uuid) (params : UploadParams) : List DiskCall × UploadedFileResult :=
  let folderPath := joinPaths provider.basePath params.folder
  let key := params.folder ++ "/" ++ uuid.text ++ "." ++ extension params.originalName
  let fullPath := joinPaths provider.basePath key
  let created := if existsSync folderPath then [] else [.mkdirSync folderPath]
  (created ++ [.writeFileSync fullPath params.buffer],
    { url := provider.baseUrl ++ "/uploads/" ++ key, key })

section Callers

variable (provider : LocalDiskStorageProvider) (existsSync : String → Bool) (uuid : Uuid)

def allowedTypes : List String := ["license", "id_card", "photo", "registration_doc"]

/-- The folder of a driver's documents of one type. -/
def documentFolder (userId documentType : String) : String := "drivers/" ++ userId ++ "/" ++ documentType

/-- `DriversService.uploadDocument` -/
def uploadDocument (userId : String) (file : File) (documentType : String) :
    Except String (List DiskCall × UploadedFileResult) :=
  if documentType ∉ allowedTypes then .error ("Type de document invalide : " ++ documentType)
  else
    .ok (provider.upload existsSync uuid
      { buffer := file.buffer
        originalName := file.originalname
        mimeType := file.mimetype
        folder := documentFolder userId documentType })

/-- `ChatService.uploadAudio` -/
def uploadAudio (file : File) : List DiskCall × UploadedFileResult :=
  provider.upload existsSync uuid
    { buffer := file.buffer
      originalName := file.originalname
      mimeType := file.mimetype
      folder := "chat/audio" }

/-- A request that uploads a file. -/
inductive Upload
  | document (userId : String) (file : Option File) (documentType : String)
  | audio (file : Option File)

/-- The folder its file belongs in. -/
def Upload.folder : Upload → String
  | document userId _ documentType => documentFolder userId documentType
  | audio _ => "chat/audio"

/-- The controllers' `uploadDocument` and `uploadAudio` -/
def Upload.run : Upload → Except String (List DiskCall × UploadedFileResult)
  | document _ none _ => .error "Aucun fichier recu"
  | document userId (some file) documentType =>
    uploadDocument provider existsSync uuid userId file documentType
  | audio none => .error "Aucun fichier reçu"
  | audio (some file) => .ok (uploadAudio provider existsSync uuid file)

end Callers

/-! ### Where the file is written -/

/-- The text has no separator and no dot. -/
def Undotted (text : String) : Prop := '/' ∉ text.toList ∧ '.' ∉ text.toList

/-- What the id of the user of a request is. -/
def Upload.UserIdUndotted : Upload → Prop
  | document userId _ _ => Undotted userId
  | audio _ => True

/-- A directory that is created is the folder, and a file is written below it: so says its normalized
path, and so it is from any directory the server runs in. -/
def DiskCall.StaysIn (basePath folder : String) : DiskCall → Prop
  | mkdirSync path => path = joinPaths basePath folder
  | writeFileSync path _ =>
    Under (joinPaths basePath folder).toList path.toList ∧
      ∃ below, below ≠ [] ∧ (∀ name ∈ below, Plain name) ∧
        ∀ cwd, walk cwd path.toList = walk cwd basePath.toList ++ names folder.toList ++ below

theorem Uuid.undotted (uuid : Uuid) : Undotted uuid.text :=
  ⟨fun h => absurd (uuid.chars _ h) (by decide), fun h => absurd (uuid.chars _ h) (by decide)⟩

theorem Uuid.toList_ne_nil (uuid : Uuid) : uuid.text.toList ≠ [] := by
  intro h
  have hlength := uuid.length_eq
  rw [← String.length_toList, h] at hlength
  simp at hlength

/-- Nothing after the last dot is a dot. -/
theorem dot_not_mem_extension (originalName : String) : '.' ∉ (extension originalName).toList := by
  obtain ⟨last, hlast⟩ := Option.isSome_iff_exists.mp
    (List.getLast?_isSome.mpr (List.splitOn_ne_nil '.' originalName.toList))
  rw [extension, hlast, Option.map_some, Option.getD_some, String.toList_ofList]
  exact fun hmem => (mem_of_mem_splitOn (List.mem_of_getLast? hlast) hmem).2 rfl

/-- The fresh name is in front of the first segment, so that no segment of the file is `.` or `..`. -/
theorem names_file (uuid : Uuid) {ext : List Char} (hext : '.' ∉ ext) :
    names (uuid.text.toList ++ '.' :: ext) ≠ [] ∧
      ∀ name ∈ names (uuid.text.toList ++ '.' :: ext), Plain name := by
  obtain ⟨c, rest, huuid⟩ := List.exists_cons_of_ne_nil uuid.toList_ne_nil
  obtain ⟨first, others, hothers⟩ := List.exists_cons_of_ne_nil (List.splitOn_ne_nil '/' ext)
  have hsep : '/' ∉ uuid.text.toList ++ ['.'] := by
    intro hmem
    rcases List.mem_append.mp hmem with hmem | hmem
    · exact uuid.undotted.1 hmem
    · exact absurd hmem (by decide)
  have hsegments : segments (uuid.text.toList ++ '.' :: ext) =
      (uuid.text.toList ++ '.' :: first) :: others := by
    have hprepend := segments_prepend hsep hothers
    simpa using hprepend
  have hdot : c ≠ '.' := by
    rintro rfl
    exact uuid.undotted.2 (by rw [huuid]; exact List.mem_cons_self)
  have hfirst : Plain (uuid.text.toList ++ '.' :: first) := by
    rw [huuid]
    exact plain_of_head hdot (rest ++ '.' :: first)
  rw [names, hsegments]
  constructor
  · rw [List.filter_cons_of_pos (by simp)]
    exact List.cons_ne_nil _ _
  · intro name hname
    obtain ⟨hmem, hne⟩ := List.mem_filter.mp hname
    rcases List.mem_cons.mp hmem with rfl | hmem
    · exact hfirst
    · -- a later segment of the extension has no dot at all
      have hpiece : name ∈ ext.splitOn '/' := by
        rw [hothers]
        exact List.mem_cons_of_mem first hmem
      exact plain_of_not_mem (of_decide_eq_true hne) fun hdot =>
        hext (mem_of_mem_splitOn hpiece hdot).1

/-- A file that is uploaded to a folder that ends with a name stays in it. -/
theorem upload_staysIn (provider : LocalDiskStorageProvider) (existsSync : String → Bool) (uuid : Uuid)
    {params : UploadParams} {dir : List Char} {name : Segment}
    (hfolder : params.folder.toList = dir ++ '/' :: name) (hname : Plain name) (hsep : '/' ∉ name)
    (hrelative : isAbsolute params.folder.toList = false)
    (hplain : ∀ name ∈ names params.folder.toList, Plain name) :
    ∀ call ∈ (provider.upload existsSync uuid params).1,
      call.StaysIn provider.basePath params.folder := by
  obtain ⟨hne, hfile⟩ := names_file uuid (dot_not_mem_extension params.originalName)
  have hkey : (params.folder ++ "/" ++ uuid.text ++ "." ++ extension params.originalName).toList =
      dir ++ '/' :: name ++
        '/' :: (uuid.text.toList ++ '.' :: (extension params.originalName).toList) := by
    simp [String.toList_append, hfolder]
  have hunder : Under (joinPaths provider.basePath params.folder).toList
      (joinPaths provider.basePath
        (params.folder ++ "/" ++ uuid.text ++ "." ++ extension params.originalName)).toList := by
    rw [joinPaths, joinPaths, String.toList_ofList, String.toList_ofList, hkey, hfolder]
    exact under_join provider.basePath.toList dir hname hsep hne hfile
  have hjoined : (joinPaths provider.basePath params.folder).toList ≠ [] := by
    rw [joinPaths, String.toList_ofList]
    exact join_ne_nil _
  have hfolderNe : params.folder.toList ≠ [] := by
    rw [hfolder]
    simp
  have hplace : ∀ cwd, walk cwd (joinPaths provider.basePath params.folder).toList =
      walk cwd provider.basePath.toList ++ names params.folder.toList := by
    intro cwd
    rw [joinPaths, String.toList_ofList, walk_join cwd _ hfolderNe hrelative, walk, hrelative,
      if_neg Bool.false_ne_true, foldl_enter_plain _ (plain_of_names hplain), names]
  have hwrite : DiskCall.StaysIn provider.basePath params.folder (.writeFileSync
      (joinPaths provider.basePath
        (params.folder ++ "/" ++ uuid.text ++ "." ++ extension params.originalName))
      params.buffer) := by
    obtain ⟨below, hbelow, hnames, hwalk⟩ := hunder.walk hjoined
    refine ⟨hunder, below, hbelow, hnames, fun cwd => ?_⟩
    rw [hwalk cwd, hplace cwd]
  intro call hcall
  rcases List.mem_append.mp hcall with hcall | hcall
  · split_ifs at hcall
    · exact absurd hcall List.not_mem_nil
    · rw [List.mem_singleton.mp hcall]
      rfl
  · rw [List.mem_singleton.mp hcall]
    exact hwrite

theorem undotted_allowedTypes :
    ∀ documentType ∈ allowedTypes, documentType.toList ≠ [] ∧ Undotted documentType := by
  unfold Undotted
  decide

theorem toList_documentFolder (userId documentType : String) :
    (documentFolder userId documentType).toList =
      "drivers".toList ++ '/' :: (userId.toList ++ '/' :: documentType.toList) := by
  simp [documentFolder, String.toList_append]

theorem names_documentFolder {userId documentType : String} (huser : Undotted userId)
    (hallowed : documentType ∈ allowedTypes) :
    ∀ name ∈ names (documentFolder userId documentType).toList, Plain name := by
  obtain ⟨-, htype⟩ := undotted_allowedTypes documentType hallowed
  have hdrivers : '/' ∉ "drivers".toList ∧ '.' ∉ "drivers".toList := by decide
  intro name hname
  obtain ⟨hmem, hne⟩ := List.mem_filter.mp hname
  rw [toList_documentFolder, segments_append, segments_append, segments_of_not_mem hdrivers.1,
    segments_of_not_mem huser.1, segments_of_not_mem htype.1] at hmem
  have hundotted : '.' ∉ name := by
    simp only [List.mem_append, List.mem_singleton] at hmem
    rcases hmem with rfl | rfl | rfl
    · exact hdrivers.2
    · exact huser.2
    · exact htype.2
  exact plain_of_not_mem (of_decide_eq_true hne) hundotted

/-- What a request uploads stays in its folder, whatever name the client gave to the file. -/
theorem uploads_stay_in_folder (provider : LocalDiskStorageProvider) (existsSync : String → Bool)
    (uuid : Uuid) (upload : Upload) (huser : upload.UserIdUndotted) {calls : List DiskCall}
    {result : UploadedFileResult} (hrun : upload.run provider existsSync uuid = .ok (calls, result)) :
    ∀ call ∈ calls, call.StaysIn provider.basePath upload.folder := by
  cases upload with
  | document userId file documentType =>
    cases file with
    | none => exact absurd hrun nofun
    | some file =>
      simp only [Upload.run, uploadDocument] at hrun
      split_ifs at hrun with hallowed
      obtain ⟨hne, htype⟩ := undotted_allowedTypes documentType hallowed
      have hfolder : (documentFolder userId documentType).toList =
          "drivers".toList ++ '/' :: userId.toList ++ '/' :: documentType.toList := by
        rw [toList_documentFolder, List.append_assoc, List.cons_append]
      have hrelative : isAbsolute (documentFolder userId documentType).toList = false := by
        rw [toList_documentFolder]
        rfl
      obtain rfl : _ = calls := congrArg Prod.fst (Except.ok.inj hrun)
      exact upload_staysIn provider existsSync uuid hfolder (plain_of_not_mem hne htype.2) htype.1
        hrelative (names_documentFolder huser hallowed)
  | audio file =>
    cases file with
    | none => exact absurd hrun nofun
    | some file =>
      have hfolder : "chat/audio".toList = "chat".toList ++ '/' :: "audio".toList := rfl
      have hrelative : isAbsolute "chat/audio".toList = false := by decide
      have hnames : ∀ name ∈ names "chat/audio".toList, '.' ∉ name ∧ name ≠ [] := by decide +kernel
      obtain rfl : _ = calls := congrArg Prod.fst (Except.ok.inj hrun)
      exact upload_staysIn provider existsSync uuid hfolder (plain_of_not_mem (by decide) (by decide))
        (by decide) hrelative fun name hname => plain_of_not_mem (hnames name hname).2 (hnames name hname).1

def exampleUuid : Uuid where
  text := "3fa85f64-5717-4562-b3fc-2c963f66afa6"
  length_eq := by decide +kernel
  chars c hc := by
    have hall : "3fa85f64-5717-4562-b3fc-2c963f66afa6".toList.all
        (fun c => decide (c ∈ "0123456789abcdef-".toList)) = true := by decide +kernel
    exact of_decide_eq_true (List.all_eq_true.mp hall c hc)

theorem uploads_stay_in_folder_climbing :
    (DiskCall.writeFileSync "uploads/drivers/7/photo/3fa85f64-5717-4562-b3fc-2c963f66afa6./etc/passwd"
      [0]).StaysIn "./uploads" "drivers/7/photo" := by
  have hrun : Upload.run {} (fun _ => true) exampleUuid
      (.document "7" (some ⟨[0], "a/../../../../etc/passwd", "image/png"⟩) "photo") =
      .ok ([.writeFileSync
          "uploads/drivers/7/photo/3fa85f64-5717-4562-b3fc-2c963f66afa6./etc/passwd" [0]],
        ⟨"http://localhost:3000/uploads/drivers/7/photo/3fa85f64-5717-4562-b3fc-2c963f66afa6./etc/passwd",
          "drivers/7/photo/3fa85f64-5717-4562-b3fc-2c963f66afa6./etc/passwd"⟩) := by
    rfl
  have huser : Undotted "7" := ⟨by decide, by decide⟩
  exact uploads_stay_in_folder {} (fun _ => true) exampleUuid
    (.document "7" (some ⟨[0], "a/../../../../etc/passwd", "image/png"⟩) "photo") huser hrun _
    List.mem_cons_self

end Telima.Storage
