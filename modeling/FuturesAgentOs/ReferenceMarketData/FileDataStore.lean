import FuturesAgentOs.PyModel.Machine
import FuturesAgentOs.PyModel.WriteOnce
import FuturesAgentOs.ReferenceMarketData.DataLake

namespace FuturesAgentOs

open PyModel

/-!
# The file data store

`reference_market_data/data_lake.py`: `LocalFileDataStore` keeps the content of a dataset in one
file and its manifest in another, both created once.

* `sound_iff` — the puts raise exactly when one of them does that, and what was put is there.
-/

/-- A path, as its parts. -/
abbrev Path := List Text

/-- What the files hold. -/
abbrev FileSystem := Path → Option (List Text.Byte)

namespace FileSystem

/-- The file of a path holds `content` now. -/
def write (files : FileSystem) (path : Path) (content : List Text.Byte) : FileSystem :=
  Function.update files path (some content)

@[simp] theorem write_self (files : FileSystem) (path : Path) (content : List Text.Byte) :
    files.write path content path = some content :=
  Function.update_self _ _ _

theorem write_of_ne (files : FileSystem) {path other : Path} (content : List Text.Byte)
    (h : other ≠ path) : files.write path content other = files other :=
  Function.update_of_ne h _ _

/-- `path.read_bytes()` -/
def readBytes (files : FileSystem) (path : Path) : Py (List Text.Byte) :=
  match files path with
  | none => .error ⟨.fileNotFoundError, "No such file or directory"⟩
  | some content => .ok content

end FileSystem

structure StoredDataset where
  manifest : DatasetManifest
  content : List Text.Byte
  deriving DecidableEq

section

variable [Hashlib]

def sha256Digest (content : List Text.Byte) : Text :=
  hashPrefix ++ (sha256 content).hexdigest

theorem isContentHash_sha256Digest (content : List Text.Byte) :
    IsContentHash (sha256Digest content) := by
  rw [IsContentHash, sha256Digest, List.take_left, List.drop_left]
  exact ⟨rfl, Digest.isHexDigest_hexdigest _⟩

end

structure LocalFileDataStore where
  root : Path
  layer : DatasetLayer

namespace LocalFileDataStore

variable (store : LocalFileDataStore)

/-- The file of a content with this hash. -/
def objectFile (contentHash : Text) : Path :=
  store.root ++ [Text.ofString "objects", contentHash.drop hashPrefix.length]

def objectPath (contentHash : Text) : Py Path := do
  require (IsContentHash contentHash)
    (valueError "content_hash must be a canonical sha256 digest")
  .ok (store.objectFile contentHash)

def manifestPath (datasetId : EntityId) : Path :=
  store.root ++
    [Text.ofString "manifests", store.layer.value, datasetId.str ++ Text.ofString ".json"]

theorem manifestPath_ne_objectFile (contentHash : Text) (datasetId : EntityId) :
    store.manifestPath datasetId ≠ store.objectFile contentHash := by
  intro h
  have hlength := congrArg List.length h
  simp [objectFile, manifestPath] at hlength

/-! ### Getting -/

def get [Hashlib] (files : FileSystem) (datasetId : EntityId) : Py StoredDataset := do
  let bytes ← files.readBytes (store.manifestPath datasetId)
  let manifest ← manifestFromJson bytes
  require (manifest.fields.datasetId = datasetId ∧ manifest.fields.layer = store.layer)
    (valueError "stored dataset manifest does not match identity or store layer")
  let path ← store.objectPath manifest.fields.contentHash
  let content ← files.readBytes path
  require (sha256Digest content = manifest.fields.contentHash)
    (valueError "stored dataset content hash verification failed")
  .ok { manifest, content }

/-! ### Putting -/

/-- Where a call of `put` is: the file-system step that it makes next, with the bytes of the
manifest once they are known, and the bytes that are still to be written. -/
inductive Phase where
  /-- not called, or killed -/
  | idle
  /-- `os.open` of the object file, with `O_EXCL` -/
  | createObject
  /-- `output.write` to the object file -/
  | writeObject (rest : List Text.Byte)
  /-- `path.read_bytes()` of the object file, which was there -/
  | readObject
  /-- `manifest_path.exists()` -/
  | checkManifest (bytes : List Text.Byte)
  /-- `manifest_path.read_bytes()` of the manifest file, which was there -/
  | compareManifest (bytes : List Text.Byte)
  /-- `os.open` of the manifest file, with `O_EXCL` -/
  | createManifest (bytes : List Text.Byte)
  /-- `output.write` to the manifest file -/
  | writeManifest (rest : List Text.Byte)
  /-- `path.read_bytes()` of the manifest file, which another put created since -/
  | readManifest (bytes : List Text.Byte)
  /-- `manifest_path.read_bytes()` once `_write_once` raised `ValueError` -/
  | rereadManifest (bytes : List Text.Byte)
  | returned
  | raised (e : PyException)
  deriving DecidableEq

/-- `raise ValueError("immutable dataset_id already has a different manifest")` -/
def manifestDiffers : Phase :=
  .raised (valueError "immutable dataset_id already has a different manifest")

section

variable [Hashlib] (dataset : StoredDataset)

/-- The checks of `put`, before its first file-system step. -/
def entered : Phase :=
  let checks : Py Path := do
    require (dataset.manifest.fields.layer = store.layer)
      (valueError "dataset layer does not match this store")
    require (sha256Digest dataset.content = dataset.manifest.fields.contentHash)
      (valueError "dataset content does not match manifest content_hash")
    store.objectPath dataset.manifest.fields.contentHash
  match checks with
  | .error e => .raised e
  | .ok _ => .createObject

end

section

variable (dataset : StoredDataset)

/-- `object_path` -/
def objectOf : Path := store.objectFile dataset.manifest.fields.contentHash

/-- `manifest_path` -/
def manifestOf : Path := store.manifestPath dataset.manifest.fields.datasetId

theorem manifestOf_ne_objectOf : store.manifestOf dataset ≠ store.objectOf dataset :=
  store.manifestPath_ne_objectFile _ _

/-- The object file is written, or is there. -/
def objectStored : Phase :=
  match manifestJson dataset.manifest with
  | .error e => .raised e
  | .ok bytes => .checkManifest bytes

/-- A read of a file that has to hold `bytes`: where the put goes on. -/
def afterRead (files : FileSystem) (path : Path) (bytes : List Text.Byte) (same other : Phase) :
    Phase :=
  match files.readBytes path with
  | .error e => .raised e
  | .ok held => if held = bytes then same else other

/-- `os.open` with `O_EXCL`: the put has the file, or the file was there. -/
def afterCreate (files : FileSystem) (path : Path) (mine other : Phase) : Phase × FileSystem :=
  match files path with
  | none => (mine, files.write path [])
  | some _ => (other, files)

/-- A part of what is left is written; the file is closed when nothing is left. -/
def afterWrite (files : FileSystem) (path : Path) (chunk : ℕ) (rest : List Text.Byte)
    (more : List Text.Byte → Phase) (done : Phase) : Phase × FileSystem :=
  let files := files.write path ((files path).getD [] ++ rest.take chunk)
  (if rest.drop chunk = [] then done else more (rest.drop chunk), files)

/-- The next file-system step of a put; `chunk` is how much a write writes. -/
def putStep (files : FileSystem) (chunk : ℕ) : Phase → Phase × FileSystem
  | .createObject =>
    afterCreate files (store.objectOf dataset) (.writeObject dataset.content) .readObject
  | .writeObject rest =>
    afterWrite files (store.objectOf dataset) chunk rest .writeObject (objectStored dataset)
  | .readObject =>
    (afterRead files (store.objectOf dataset) dataset.content (objectStored dataset)
      (.raised (valueError "immutable object path already contains different content")), files)
  | .checkManifest bytes =>
    match files (store.manifestOf dataset) with
    | none => (.createManifest bytes, files)
    | some _ => (.compareManifest bytes, files)
  | .compareManifest bytes =>
    (afterRead files (store.manifestOf dataset) bytes .returned manifestDiffers, files)
  | .createManifest bytes =>
    afterCreate files (store.manifestOf dataset) (.writeManifest bytes) (.readManifest bytes)
  | .writeManifest rest =>
    afterWrite files (store.manifestOf dataset) chunk rest .writeManifest .returned
  -- the `ValueError` of `_write_once` is caught, and the file is read again
  | .readManifest bytes =>
    (afterRead files (store.manifestOf dataset) bytes .returned (.rereadManifest bytes), files)
  | .rereadManifest bytes =>
    (afterRead files (store.manifestOf dataset) bytes .returned manifestDiffers, files)
  | phase => (phase, files)

end

/-! ### Puts that interleave -/

/-- The files, and where each put is. -/
structure World where
  files : FileSystem
  puts : ℕ → Phase

/-- A put is called, makes its next step, or is killed. -/
inductive Event where
  | called (i : ℕ)
  | stepped (i chunk : ℕ)
  | killed (i : ℕ)

/-- The put has ended. -/
def Phase.ended : Phase → Bool
  | .returned | .raised _ => true
  | _ => false

namespace World

/-- The put `i` is in `phase` now. -/
def move (w : World) (i : ℕ) (phase : Phase) : World :=
  { w with puts := Function.update w.puts i phase }

variable [Hashlib] (dataset : StoredDataset)

/-- One event; a put that was killed may be called again. -/
def next (w : World) : Event → World
  | .called i => if w.puts i = .idle then w.move i (store.entered dataset) else w
  | .stepped i chunk =>
    let (phase, files) := store.putStep dataset w.files chunk (w.puts i)
    { w.move i phase with files }
  | .killed i => if (w.puts i).ended then w else w.move i .idle

end World

/-- Puts of the dataset, whose steps interleave. -/
def machine [Hashlib] (dataset : StoredDataset) : Machine World Event Unit :=
  ⟨fun w event => ((), World.next store dataset w event)⟩

/-- No put has been called. -/
def start (files : FileSystem) : World := ⟨files, fun _ => .idle⟩

/-! ### What the puts find -/

section

variable {files : FileSystem} {path : Path} {bytes : List Text.Byte} {same other : Phase}

theorem afterRead_of_whole (h : files path = some bytes) :
    afterRead files path bytes same other = same := by
  simp only [afterRead, FileSystem.readBytes, h, if_true]

theorem afterRead_of_isPart (h : WriteOnce.IsPart bytes (files path)) :
    afterRead files path bytes same other = other := by
  obtain ⟨held, hheld, -, hne⟩ := h
  simp only [afterRead, FileSystem.readBytes, Option.mem_def.mp hheld, if_neg hne]

end

/-- What the put has still to write to the object file, when it is its writer. -/
def Phase.objectRest : Phase → Option (List Text.Byte)
  | .writeObject rest => some rest
  | _ => none

/-- What the put has still to write to the manifest file, when it is its writer. -/
def Phase.manifestRest : Phase → Option (List Text.Byte)
  | .writeManifest rest => some rest
  | _ => none

/-- What a put in this phase knows of the two files; `bytes` is the whole manifest file. -/
def Phase.Reached (content bytes : List Text.Byte) (object manifest : Option (List Text.Byte)) :
    Phase → Prop
  | .idle | .createObject | .writeObject _ => True
  | .readObject => object ≠ none
  | .checkManifest b | .createManifest b => b = bytes ∧ object = some content
  | .compareManifest b | .readManifest b | .rereadManifest b =>
    b = bytes ∧ object = some content ∧ manifest ≠ none
  | .writeManifest _ => object = some content
  | .returned => object = some content ∧ manifest = some bytes
  | .raised _ => False

theorem Phase.Reached.of_extends {content bytes : List Text.Byte}
    {object manifest object' manifest' : Option (List Text.Byte)} {phase : Phase}
    (h : phase.Reached content bytes object manifest)
    (hobject : WriteOnce.Extends object object') (hmanifest : WriteOnce.Extends manifest manifest')
    (hbeginning : ∀ written ∈ object', written <+: content)
    (hbeginning' : ∀ written ∈ manifest', written <+: bytes) :
    phase.Reached content bytes object' manifest' := by
  cases phase with
  | idle | createObject | writeObject => trivial
  | readObject => exact hobject.ne_none h
  | checkManifest | createManifest => exact ⟨h.1, hobject.whole hbeginning h.2⟩
  | compareManifest | readManifest | rereadManifest =>
    exact ⟨h.1, hobject.whole hbeginning h.2.1, hmanifest.ne_none h.2.2⟩
  | writeManifest => exact hobject.whole hbeginning h
  | returned => exact ⟨hobject.whole hbeginning h.1, hmanifest.whole hbeginning' h.2⟩
  | raised => exact h

section

variable (dataset : StoredDataset) (bytes : List Text.Byte)

/-- What is known in the middle of a run: each file has at most one writer, who has the rest of
it, and each put knows what its phase says. -/
structure Coherent (w : World) : Prop where
  object : WriteOnce.Coherent dataset.content (w.files (store.objectOf dataset))
    (fun i => (w.puts i).objectRest)
  manifest : WriteOnce.Coherent bytes (w.files (store.manifestOf dataset))
    (fun i => (w.puts i).manifestRest)
  reached : ∀ i, (w.puts i).Reached dataset.content bytes (w.files (store.objectOf dataset))
    (w.files (store.manifestOf dataset))

end

section

variable {store} {dataset : StoredDataset} {bytes : List Text.Byte} {w : World}

variable {i : ℕ}

theorem Coherent.moved (h : store.Coherent dataset bytes w) {phase : Phase} {files : FileSystem}
    (hobject : WriteOnce.Coherent dataset.content (files (store.objectOf dataset))
      (Function.update (fun j => (w.puts j).objectRest) i phase.objectRest))
    (hmanifest : WriteOnce.Coherent bytes (files (store.manifestOf dataset))
      (Function.update (fun j => (w.puts j).manifestRest) i phase.manifestRest))
    (hextends : WriteOnce.Extends (w.files (store.objectOf dataset))
      (files (store.objectOf dataset)))
    (hextends' : WriteOnce.Extends (w.files (store.manifestOf dataset))
      (files (store.manifestOf dataset)))
    (hreached : phase.Reached dataset.content bytes (files (store.objectOf dataset))
      (files (store.manifestOf dataset))) :
    store.Coherent dataset bytes { w.move i phase with files } := by
  refine ⟨?_, ?_, ?_⟩
  · show WriteOnce.Coherent _ _ (Phase.objectRest ∘ Function.update w.puts i phase)
    rw [Function.comp_update]
    exact hobject
  · show WriteOnce.Coherent _ _ (Phase.manifestRest ∘ Function.update w.puts i phase)
    rw [Function.comp_update]
    exact hmanifest
  · intro j
    show (Function.update w.puts i phase j).Reached _ _ _ _
    by_cases hj : j = i
    · rw [hj, Function.update_self]
      exact hreached
    · rw [Function.update_of_ne hj]
      exact (h.reached j).of_extends hextends hextends' hobject.beginning hmanifest.beginning

/-- A put moves on to a phase in which it writes nothing, and leaves the files. -/
theorem Coherent.stay (h : store.Coherent dataset bytes w) {phase : Phase}
    (hobject : phase.objectRest = none) (hmanifest : phase.manifestRest = none)
    (hreached : phase.Reached dataset.content bytes (w.files (store.objectOf dataset))
      (w.files (store.manifestOf dataset))) : store.Coherent dataset bytes (w.move i phase) := by
  refine h.moved ?_ ?_ (WriteOnce.Extends.refl _) (WriteOnce.Extends.refl _) hreached
  · rw [hobject]
    exact h.object.leave i
  · rw [hmanifest]
    exact h.manifest.leave i

/-- A put moves on, and writes the object file. -/
theorem Coherent.wroteObject (h : store.Coherent dataset bytes w) {phase : Phase}
    {content : List Text.Byte} (hobject : WriteOnce.Coherent dataset.content (some content)
      (Function.update (fun j => (w.puts j).objectRest) i phase.objectRest))
    (hextends : WriteOnce.Extends (w.files (store.objectOf dataset)) (some content))
    (hmanifest : phase.manifestRest = none)
    (hreached : phase.Reached dataset.content bytes (some content)
      (w.files (store.manifestOf dataset))) :
    store.Coherent dataset bytes
      { w.move i phase with files := w.files.write (store.objectOf dataset) content } := by
  have hself := w.files.write_self (store.objectOf dataset) content
  have hother := w.files.write_of_ne content
    (store.manifestOf_ne_objectOf dataset)
  refine h.moved ?_ ?_ ?_ ?_ ?_ <;> simp only [hself, hother, hmanifest]
  · exact hobject
  · exact h.manifest.leave i
  · exact hextends
  · exact WriteOnce.Extends.refl _
  · exact hreached

/-- A put moves on, and writes the manifest file. -/
theorem Coherent.wroteManifest (h : store.Coherent dataset bytes w) {phase : Phase}
    {content : List Text.Byte} (hmanifest : WriteOnce.Coherent bytes (some content)
      (Function.update (fun j => (w.puts j).manifestRest) i phase.manifestRest))
    (hextends : WriteOnce.Extends (w.files (store.manifestOf dataset)) (some content))
    (hobject : phase.objectRest = none)
    (hreached : phase.Reached dataset.content bytes (w.files (store.objectOf dataset))
      (some content)) :
    store.Coherent dataset bytes
      { w.move i phase with files := w.files.write (store.manifestOf dataset) content } := by
  have hself := w.files.write_self (store.manifestOf dataset) content
  have hother := w.files.write_of_ne content
    (store.manifestOf_ne_objectOf dataset).symm
  refine h.moved ?_ ?_ ?_ ?_ ?_ <;> simp only [hself, hother, hobject]
  · exact h.object.leave i
  · exact hmanifest
  · exact WriteOnce.Extends.refl _
  · exact hextends
  · exact hreached

theorem Coherent.createObject (h : store.Coherent dataset bytes w) (i : ℕ) :
    let (phase, files) := afterCreate w.files (store.objectOf dataset)
      (.writeObject dataset.content) .readObject
    store.Coherent dataset bytes { w.move i phase with files } := by
  rcases hfile : w.files (store.objectOf dataset) with _ | held
  · simp only [afterCreate, hfile]
    have hobject := h.object
    rw [hfile] at hobject
    exact h.wroteObject (hobject.create i) (hfile ▸ WriteOnce.extends_create _) rfl trivial
  · simp only [afterCreate, hfile]
    refine h.stay rfl rfl ?_
    rw [Phase.Reached, hfile]
    exact Option.some_ne_none _

theorem Coherent.writeObject (h : store.Coherent dataset bytes w)
    {rest : List Text.Byte} (hput : w.puts i = .writeObject rest)
    (hjson : manifestJson dataset.manifest = .ok bytes) (chunk : ℕ) :
    let (phase, files) := afterWrite w.files (store.objectOf dataset) chunk rest .writeObject
      (objectStored dataset)
    store.Coherent dataset bytes { w.move i phase with files } := by
  have hrest : (w.puts i).objectRest = some rest := by rw [hput]; rfl
  obtain ⟨written, hheld, -⟩ := h.object.exists_written hrest
  have hstored : objectStored dataset = .checkManifest bytes := by
    simp only [objectStored, hjson]
  simp only [afterWrite, hheld, Option.getD_some, hstored]
  split
  next hdone =>
    rw [List.take_of_length_le (List.drop_eq_nil_iff.mp hdone)]
    obtain ⟨hwhole, hobject⟩ := h.object.finish hheld hrest
    exact h.wroteObject hobject (hheld ▸ WriteOnce.extends_append _ _) rfl
      ⟨rfl, congrArg some hwhole⟩
  next =>
    exact h.wroteObject (h.object.write hheld (by rw [hrest, List.take_append_drop]))
      (hheld ▸ WriteOnce.extends_append _ _) rfl trivial

theorem Coherent.createManifest (h : store.Coherent dataset bytes w)
    (hobject : w.files (store.objectOf dataset) = some dataset.content) :
    let (phase, files) := afterCreate w.files (store.manifestOf dataset)
      (.writeManifest bytes) (.readManifest bytes)
    store.Coherent dataset bytes { w.move i phase with files } := by
  rcases hfile : w.files (store.manifestOf dataset) with _ | held
  · simp only [afterCreate, hfile]
    have hmanifest := h.manifest
    rw [hfile] at hmanifest
    exact h.wroteManifest (hmanifest.create i) (hfile ▸ WriteOnce.extends_create _) rfl hobject
  · simp only [afterCreate, hfile]
    refine h.stay rfl rfl ⟨rfl, hobject, ?_⟩
    rw [hfile]
    exact Option.some_ne_none _

theorem Coherent.writeManifest (h : store.Coherent dataset bytes w)
    {rest : List Text.Byte} (hput : w.puts i = .writeManifest rest)
    (hobject : w.files (store.objectOf dataset) = some dataset.content) (chunk : ℕ) :
    let (phase, files) := afterWrite w.files (store.manifestOf dataset) chunk rest .writeManifest
      .returned
    store.Coherent dataset bytes { w.move i phase with files } := by
  have hrest : (w.puts i).manifestRest = some rest := by rw [hput]; rfl
  obtain ⟨written, hheld, -⟩ := h.manifest.exists_written hrest
  simp only [afterWrite, hheld, Option.getD_some]
  split
  next hdone =>
    rw [List.take_of_length_le (List.drop_eq_nil_iff.mp hdone)]
    obtain ⟨hwhole, hmanifest⟩ := h.manifest.finish hheld hrest
    exact h.wroteManifest hmanifest (hheld ▸ WriteOnce.extends_append _ _) rfl
      ⟨hobject, congrArg some hwhole⟩
  next =>
    exact h.wroteManifest (h.manifest.write hheld (by rw [hrest, List.take_append_drop]))
      (hheld ▸ WriteOnce.extends_append _ _) rfl hobject

end

/-! ### Torn reads -/

section

variable (dataset : StoredDataset)

/-- A put reads one of the two files while only a part of it is written: another put is still
writing it, or was killed before it had written all of it.  The read of a put that found the
manifest file created since does not count, as it reads again. -/
def Torn (w : World) : Event → Prop
  | .stepped i _ =>
    match w.puts i with
    | .readObject => WriteOnce.IsPart dataset.content (w.files (store.objectOf dataset))
    | .compareManifest bytes | .rereadManifest bytes =>
      WriteOnce.IsPart bytes (w.files (store.manifestOf dataset))
    | _ => False
  | _ => False

variable [Hashlib]

/-- The store takes the dataset, and the manifest of the dataset survives its file. -/
structure Takes : Prop where
  layer : dataset.manifest.fields.layer = store.layer
  contentHash : sha256Digest dataset.content = dataset.manifest.fields.contentHash
  storable : dataset.manifest.Storable

end

section

variable {store} {dataset : StoredDataset} {bytes : List Text.Byte} {w : World}

/-- **Step of a put.** -/
theorem Coherent.stepped (h : store.Coherent dataset bytes w)
    (hjson : manifestJson dataset.manifest = .ok bytes) {i chunk : ℕ}
    (htorn : ¬ store.Torn dataset w (.stepped i chunk)) :
    let (phase, files) := store.putStep dataset w.files chunk (w.puts i)
    store.Coherent dataset bytes { w.move i phase with files } := by
  have hreached := h.reached i
  have hstored : objectStored dataset = .checkManifest bytes := by
    simp only [objectStored, hjson]
  rcases hput : w.puts i with _ | _ | rest | _ | b | b | b | rest | b | b | _ | e <;>
    rw [hput] at hreached
  · exact h.stay rfl rfl trivial
  · exact h.createObject i
  · exact h.writeObject hput hjson chunk
  · have hwhole : w.files (store.objectOf dataset) = some dataset.content := by
      refine WriteOnce.whole_of_not_isPart h.object.beginning hreached ?_
      simpa only [Torn, hput] using htorn
    simp only [putStep, afterRead_of_whole hwhole, hstored]
    exact h.stay rfl rfl ⟨rfl, hwhole⟩
  · obtain ⟨rfl, hobject⟩ := hreached
    rcases hfile : w.files (store.manifestOf dataset) with _ | held
    · simp only [putStep, hfile]
      exact h.stay rfl rfl ⟨rfl, hobject⟩
    · simp only [putStep, hfile]
      refine h.stay rfl rfl ⟨rfl, hobject, ?_⟩
      rw [hfile]
      exact Option.some_ne_none _
  · obtain ⟨rfl, hobject, hne⟩ := hreached
    have hwhole : w.files (store.manifestOf dataset) = some b := by
      refine WriteOnce.whole_of_not_isPart h.manifest.beginning hne ?_
      simpa only [Torn, hput] using htorn
    simp only [putStep, afterRead_of_whole hwhole]
    exact h.stay rfl rfl ⟨hobject, hwhole⟩
  · obtain ⟨rfl, hobject⟩ := hreached
    exact h.createManifest hobject
  · exact h.writeManifest hput hreached chunk
  · obtain ⟨rfl, hobject, hne⟩ := hreached
    by_cases hpart : WriteOnce.IsPart b (w.files (store.manifestOf dataset))
    · simp only [putStep, afterRead_of_isPart hpart]
      exact h.stay rfl rfl ⟨rfl, hobject, hne⟩
    · have hwhole := WriteOnce.whole_of_not_isPart h.manifest.beginning hne hpart
      simp only [putStep, afterRead_of_whole hwhole]
      exact h.stay rfl rfl ⟨hobject, hwhole⟩
  · obtain ⟨rfl, hobject, hne⟩ := hreached
    have hwhole : w.files (store.manifestOf dataset) = some b := by
      refine WriteOnce.whole_of_not_isPart h.manifest.beginning hne ?_
      simpa only [Torn, hput] using htorn
    simp only [putStep, afterRead_of_whole hwhole]
    exact h.stay rfl rfl ⟨hobject, hwhole⟩
  · exact h.stay rfl rfl hreached
  · exact hreached.elim

variable [Hashlib]

theorem entered_eq (h : store.Takes dataset) : store.entered dataset = .createObject := by
  have hhash : IsContentHash dataset.manifest.fields.contentHash := by
    rw [← h.contentHash]
    exact isContentHash_sha256Digest _
  rw [entered, require_of_pos h.layer, Py.ok_bind, require_of_pos h.contentHash, Py.ok_bind,
    objectPath, require_of_pos hhash]
  rfl

/-- **Step.** -/
theorem Coherent.next (h : store.Coherent dataset bytes w) (htakes : store.Takes dataset)
    (hjson : manifestJson dataset.manifest = .ok bytes) {event : Event}
    (htorn : ¬ store.Torn dataset w event) :
    store.Coherent dataset bytes (World.next store dataset w event) := by
  cases event with
  | called i =>
    rw [World.next]
    split
    · rw [entered_eq htakes]
      exact h.stay rfl rfl trivial
    · exact h
  | stepped i chunk => exact h.stepped hjson htorn
  | killed i =>
    rw [World.next]
    split
    · exact h
    · exact h.stay rfl rfl trivial

theorem get_of_stored (htakes : store.Takes dataset)
    (hread : manifestFromJson bytes = .ok dataset.manifest) {files : FileSystem}
    (hobject : files (store.objectOf dataset) = some dataset.content)
    (hmanifest : files (store.manifestOf dataset) = some bytes) :
    store.get files dataset.manifest.fields.datasetId = .ok dataset := by
  have hhash : IsContentHash dataset.manifest.fields.contentHash := by
    rw [← htakes.contentHash]
    exact isContentHash_sha256Digest _
  have hbytes : files.readBytes (store.manifestPath dataset.manifest.fields.datasetId)
      = .ok bytes := by
    simp only [FileSystem.readBytes, show files (store.manifestPath _) = some bytes from hmanifest]
  have hcontent : files.readBytes (store.objectFile dataset.manifest.fields.contentHash)
      = .ok dataset.content := by
    simp only [FileSystem.readBytes,
      show files (store.objectFile _) = some dataset.content from hobject]
  rw [get, hbytes, Py.ok_bind, hread, Py.ok_bind, require_of_pos ⟨rfl, htakes.layer⟩, Py.ok_bind,
    objectPath, require_of_pos hhash, Py.ok_bind, Py.ok_bind, hcontent, Py.ok_bind,
    require_of_pos htakes.contentHash]
  rfl

/-! ### Puts that raised -/

theorem raised_next {i : ℕ} {e : PyException} (h : w.puts i = .raised e) (event : Event) :
    (World.next store dataset w event).puts i = .raised e := by
  have hmove : ∀ j phase, j ≠ i ∨ phase = .raised e → (w.move j phase).puts i = .raised e := by
    intro j phase hj
    show Function.update w.puts j phase i = .raised e
    by_cases hij : i = j
    · rw [hij, Function.update_self]
      exact hj.resolve_left (fun hne => hne hij.symm)
    · rw [Function.update_of_ne hij, h]
  cases event with
  | called j =>
    rw [World.next]
    split
    next hidle =>
      refine hmove j _ (Or.inl ?_)
      rintro rfl
      rw [h] at hidle
      cases hidle
    next => exact h
  | stepped j chunk =>
    refine hmove j _ ?_
    by_cases hij : j = i
    · rw [hij, h]
      exact Or.inr rfl
    · exact Or.inl hij
  | killed j =>
    rw [World.next]
    split
    next => exact h
    next hended =>
      refine hmove j _ (Or.inl ?_)
      rintro rfl
      rw [h] at hended
      exact hended rfl

theorem raised_of_torn {event : Event} (h : store.Torn dataset w event) :
    ∃ i e, (World.next store dataset w event).puts i = .raised e := by
  rcases event with i | ⟨i, chunk⟩ | i
  · exact h.elim
  · have hput : ∀ e, (store.putStep dataset w.files chunk (w.puts i)).1 = .raised e →
        ∃ j e, (World.next store dataset w (.stepped i chunk)).puts j = .raised e := by
      intro e he
      refine ⟨i, e, ?_⟩
      show Function.update w.puts i (store.putStep dataset w.files chunk (w.puts i)).1 i = _
      rw [Function.update_self, he]
    rcases hphase : w.puts i with _ | _ | rest | _ | b | b | b | rest | b | b | _ | e <;>
      simp only [Torn, hphase] at h
    · refine hput (valueError "immutable object path already contains different content") ?_
      rw [hphase]
      exact afterRead_of_isPart h
    · refine hput (valueError "immutable dataset_id already has a different manifest") ?_
      rw [hphase]
      exact afterRead_of_isPart h
    · refine hput (valueError "immutable dataset_id already has a different manifest") ?_
      rw [hphase]
      exact afterRead_of_isPart h
  · exact h.elim

end

/-! ### Every run -/

section

variable [Hashlib] (dataset : StoredDataset)

/-- The two files of the dataset are absent, or hold their contents or the beginnings of them. -/
def Fits (files : FileSystem) : Prop :=
  (∀ written ∈ files (store.objectOf dataset), written <+: dataset.content)
    ∧ ∀ bytes, manifestJson dataset.manifest = .ok bytes →
      ∀ written ∈ files (store.manifestOf dataset), written <+: bytes

/-- No put has raised, and what was put is there. -/
structure Sound (w : World) : Prop where
  not_raised : ∀ i e, w.puts i ≠ .raised e
  get_of_returned : ∀ i, w.puts i = .returned →
    store.get w.files dataset.manifest.fields.datasetId = .ok dataset

variable {store dataset}

omit [Hashlib] in
theorem coherent_start {files : FileSystem} {bytes : List Text.Byte}
    (hfits : store.Fits dataset files) (hjson : manifestJson dataset.manifest = .ok bytes) :
    store.Coherent dataset bytes (start files) :=
  ⟨WriteOnce.coherent_of_no_writer hfits.1, WriteOnce.coherent_of_no_writer (hfits.2 bytes hjson),
    fun _ => trivial⟩

theorem Coherent.sound {bytes : List Text.Byte} {w : World}
    (h : store.Coherent dataset bytes w) (htakes : store.Takes dataset)
    (hread : manifestFromJson bytes = .ok dataset.manifest) : store.Sound dataset w := by
  refine ⟨?_, ?_⟩
  · intro i e hi
    have hreached := h.reached i
    rw [hi] at hreached
    exact hreached
  · intro i hi
    have hreached := h.reached i
    rw [hi] at hreached
    exact get_of_stored htakes hread hreached.1 hreached.2

theorem meets_of_not_raised {w : World} {events : List Event}
    (h : ∀ i e, ((store.machine dataset).exec w events).puts i ≠ .raised e) :
    (store.machine dataset).Meets (fun w event => ¬ store.Torn dataset w event) w events := by
  induction events using List.reverseRecOn with
  | nil => trivial
  | append_singleton events event ih =>
    rw [Machine.exec_concat] at h
    rw [Machine.meets_append]
    refine ⟨ih ?_, ?_, trivial⟩
    · intro i e hi
      exact h i e (raised_next hi event)
    · intro htorn
      obtain ⟨i, e, hi⟩ := raised_of_torn htorn
      exact h i e hi

/-- **Puts that interleave.** Puts of a dataset, any number of them, that may be killed and called
again, never raise and leave what they put to be got, exactly when none of them reads one of the
two files while only a part of it is written. -/
theorem sound_iff_not_torn (htakes : store.Takes dataset) {files : FileSystem}
    (hfits : store.Fits dataset files) (events : List Event) :
    store.Sound dataset ((store.machine dataset).exec (start files) events)
      ↔ (store.machine dataset).Meets (fun w event => ¬ store.Torn dataset w event)
        (start files) events := by
  obtain ⟨bytes, hjson, hread⟩ := DatasetManifest.manifestFromJson_manifestJson htakes.storable
  constructor
  · intro hsound
    exact meets_of_not_raised hsound.not_raised
  · intro hmeets
    have hcoherent := (store.machine dataset).exec_invariant_of_meets
      (I := store.Coherent dataset bytes)
      (fun w event htorn h => h.next htakes hjson htorn) hmeets (coherent_start hfits hjson)
    exact hcoherent.sound htakes hread

/-- A put is killed between the creation of the object file and its first write, and is called
again: it finds an empty file. -/
def killedAndRetried : List Event :=
  [.called 0, .stepped 0 0, .killed 0, .called 0, .stepped 0 0, .stepped 0 0]

theorem raised_of_killedAndRetried (htakes : store.Takes dataset) (hcontent : dataset.content ≠ []) :
    ∃ i e, ((store.machine dataset).exec (start fun _ => none) killedAndRetried).puts i
      = .raised e := by
  have hnext : ∀ w event, (store.machine dataset).next w event = World.next store dataset w event :=
    fun _ _ => rfl
  -- the state in which the file is empty and the retried put is about to read it
  have hempty : ∃ w, (store.machine dataset).exec (start fun _ => none)
      [.called 0, .stepped 0 0, .killed 0, .called 0, .stepped 0 0] = w
        ∧ w.puts 0 = .readObject ∧ w.files (store.objectOf dataset) = some [] := by
    refine ⟨_, rfl, ?_, ?_⟩ <;>
      simp only [Machine.exec_cons, Machine.exec_nil, hnext, World.next, World.move, start,
        entered_eq htakes, putStep, afterCreate, Function.update_self, FileSystem.write_self,
        if_true, Phase.ended, Bool.false_eq_true, if_false]
  obtain ⟨w, hw, hput, hfile⟩ := hempty
  have hrun : killedAndRetried
      = [.called 0, .stepped 0 0, .killed 0, .called 0, .stepped 0 0] ++ [.stepped 0 0] := rfl
  rw [hrun, Machine.exec_concat, hw, hnext]
  apply raised_of_torn
  simp only [Torn, hput, hfile]
  exact ⟨[], rfl, List.nil_prefix, hcontent.symm⟩

end

/-! ### A dataset -/

/-- A store of raw data. -/
def sampleStore : LocalFileDataStore := ⟨["lake"], .RAW⟩

def sampleTime : RecordedAt := ⟨.of 2026 7 13 (Eq.refl true), 9, 0, 0, 0⟩

/-- A manifest, but for the hash of the content. -/
def sampleFields : DatasetManifestFields where
  datasetId := .epoch "dataset" 0 0 (Eq.refl true)
  layer := .RAW
  objectUri := "file:bars"
  contentHash := []
  schemaName := "bars"
  schemaVersion := v2ContractSchema
  coverage := ⟨⟨sampleTime, sampleTime⟩, by decide +kernel⟩
  instrumentUniverse := ["RB"]
  provenance := ⟨{ sourceName := "vendor", sourceUri := "file:in", acquiredAt := sampleTime },
    by decide +kernel⟩
  license := ⟨{
    licenseName := "open", allowedUse := "research", retentionPolicy := "keep",
    redistributionPolicy := "none", environmentRestriction := "none" }, by decide +kernel⟩
  asOf := sampleTime
  ingestedAt := sampleTime
  quality := ⟨{ level := .Q2_RESEARCH, summary := "whole", checkedAt := sampleTime },
    by decide +kernel⟩
  revision := ⟨{ revision := 1, reason := "first", revisedAt := sampleTime }, by decide +kernel⟩

theorem valid_sampleFields {contentHash : Text} (h : IsContentHash contentHash) :
    Dataclass.postInit { sampleFields with contentHash } = .ok () := by
  have huri : sampleFields.objectUri.strip ≠ [] := by decide
  have hschema : sampleFields.schemaName.strip ≠ [] ∧ sampleFields.instrumentUniverse ≠ [] := by
    decide
  have hunique : sampleFields.instrumentUniverse.Nodup := by decide
  have hasOf : sampleFields.asOf ≤ sampleFields.ingestedAt := by decide
  have hcoverage : sampleFields.coverage.fields.finish ≤ sampleFields.asOf := by decide
  have hgenerated : sampleFields.layer ∈ [.FEATURE_SNAPSHOT, .DATASET, .ARTIFACT] →
      sampleFields.generatedBy.getD [] ≠ [] := by decide
  have hupstream : sampleFields.layer ∈ [.FEATURE_SNAPSHOT, .DATASET] →
      sampleFields.upstreamManifestIds ≠ [] := by decide
  refine check_bind_eq_ok.mpr ⟨require_of_pos ⟨huri, h.1⟩, ?_⟩
  refine check_bind_eq_ok.mpr ⟨require_of_pos h.2, ?_⟩
  refine check_bind_eq_ok.mpr ⟨require_of_pos hschema, ?_⟩
  refine check_bind_eq_ok.mpr ⟨require_of_pos hunique, ?_⟩
  refine check_bind_eq_ok.mpr ⟨require_of_pos hasOf, ?_⟩
  refine check_bind_eq_ok.mpr ⟨require_of_pos hcoverage, ?_⟩
  exact check_bind_eq_ok.mpr ⟨require_of_pos hgenerated, require_of_pos hupstream⟩

def sampleDataset : StoredDataset where
  manifest := {
    fields := { sampleFields with contentHash := sha256Digest [120] }
    valid := valid_sampleFields (isContentHash_sha256Digest _) }
  content := [120]

theorem takes_sampleDataset : sampleStore.Takes sampleDataset where
  layer := rfl
  contentHash := rfl
  storable := {
    objectUri := (by decide)
    schemaName := (by decide)
    schemaVersion := (by decide)
    instrumentUniverse := (by decide)
    sourceName := (by decide)
    sourceUri := (by decide)
    sourceRevision := (by decide)
    licenseName := (by decide)
    allowedUse := (by decide)
    retentionPolicy := (by decide)
    redistributionPolicy := (by decide)
    environmentRestriction := (by decide)
    summary := (by decide)
    issues := (by decide)
    revision := (by decide)
    reason := (by decide)
    generatedBy := (by decide) }

theorem fits_nothing : sampleStore.Fits sampleDataset (fun _ => none) :=
  ⟨fun _ hwritten => (nomatch hwritten), fun _ _ _ hwritten => (nomatch hwritten)⟩

/-- A put that is killed and called again raises. -/
theorem retry_raises :
    ¬ sampleStore.Sound sampleDataset
      ((sampleStore.machine sampleDataset).exec (start fun _ => none) killedAndRetried) := by
  intro hsound
  obtain ⟨i, e, hi⟩ := raised_of_killedAndRetried takes_sampleDataset
    (show sampleDataset.content ≠ [] by decide)
  exact hsound.not_raised i e hi

/-- Two puts, one of which is killed before its first step. -/
theorem sound_of_killed_early :
    sampleStore.Sound sampleDataset ((sampleStore.machine sampleDataset).exec (start fun _ => none)
      [.called 0, .called 1, .killed 0, .called 0]) :=
  (sampleStore.sound_iff_not_torn takes_sampleDataset fits_nothing _).mpr
    ⟨id, id, id, id, trivial⟩

end LocalFileDataStore

end FuturesAgentOs
