import AecBench.Lib.Interleaving

/-!
# The immutable byte store

A call that publishes bytes at a path looks for an entry there, writes its bytes to a temporary
file, links that file at the path, reads the entry back and removes its own link when the reading
fails. Each system call of it is a step that can be followed by steps of other calls, can fail, and
can be the last one of a process.

## Main definitions

* `Directory` — the entry of the path and the temporary files of the calls.
* `Stage` — where a call is; `publish` — what a step of a call does.
* `publication` — the calls on one path; `loadBytes` — what a reader gets.

## Main results

* `publish_file_of_ne` — a call writes no file but its own.
-/

namespace AecBench.Ledger.ImmutableByteStore

/-! ## Errors -/

/-- The classes of errors of the store. -/
inductive ArtifactErrorKind
  | store
  | confinement
  | collision
  | integrity
  | missing
  deriving DecidableEq

structure ArtifactError where
  kind : ArtifactErrorKind
  message : String
  deriving DecidableEq

/-- The system calls whose failures are told apart. -/
inductive SystemCall
  | stat
  | openFile
  | fstat
  | read
  | write
  | close
  | sync
  | mkdir
  /-- `os.close` of the directories of the path. -/
  | closeAll
  deriving DecidableEq

/-- How a step of a call ends. -/
inductive StepEvent
  | done
  /-- `os.write` takes some of the bytes. -/
  | wrote (n : ℕ)
  | failed (call : SystemCall) (cause : String)
  /-- The process of the call ends. -/
  | crashed
  deriving DecidableEq

abbrev Bytes := List UInt8

/-! ## Paths -/

/-- `_relative_parts`. -/
def relativeParts (relativePath : String) : Except ArtifactError (List String) :=
  let rawParts := (relativePath.toList.splitOn '/').map String.ofList
  if (∃ part ∈ rawParts, part = "" ∨ part = "." ∨ part = "..") ∨
      Char.ofNat 0 ∈ relativePath.toList then
    .error ⟨.confinement, "immutable artifact path must be normalized, contained, and relative"⟩
  else
    .ok rawParts

/-- A path that the store accepts. -/
structure RelativePath where
  text : String
  normalized : (relativeParts text).isOk = true

/-! ## The entry of a path -/

section Store

variable {ι : Type}

/-- The file linked at a path, named by the call that wrote it, and the temporary files. -/
structure Directory (ι : Type) where
  entry : Option ι := none
  /-- What is written in the file of a call. -/
  file : ι → Bytes := fun _ => []
  /-- Whether the temporary name of the file is there. -/
  temporary : ι → Bool := fun _ => false

def missingError (path : RelativePath) : ArtifactError :=
  ⟨.missing, s!"immutable artifact is missing: {path.text}"⟩

/-- `load_bytes` without an expected digest, when no system call fails. -/
def loadBytes (path : RelativePath) (d : Directory ι) : Except ArtifactError Bytes :=
  match d.entry with
  | none => .error (missingError path)
  | some k => .ok (d.file k)

/-- The failure of a system call while an entry is read. -/
def loadError (path : RelativePath) (cause : String) : SystemCall → ArtifactError
  | .stat => ⟨.integrity, s!"immutable artifact cannot be inspected at {path.text}: {cause}"⟩
  | .openFile => ⟨.integrity, s!"immutable artifact cannot be opened at {path.text}: {cause}"⟩
  | .fstat => ⟨.integrity, s!"immutable artifact metadata cannot be read at {path.text}: {cause}"⟩
  | .close => ⟨.store, s!"immutable artifact file cannot be closed: {cause}"⟩
  | _ => ⟨.integrity, s!"immutable artifact cannot be read at {path.text}: {cause}"⟩

/-- The failure of a system call while the parent is opened. -/
def parentError (cause : String) : SystemCall → ArtifactError
  | .openFile => ⟨.confinement, s!"immutable artifact root is unsafe: {cause}"⟩
  | .fstat => ⟨.confinement, s!"immutable artifact root identity cannot be read: {cause}"⟩
  | .stat => ⟨.confinement, s!"immutable artifact parent is unsafe: {cause}"⟩
  | .mkdir => ⟨.store, s!"immutable artifact parent cannot be created: {cause}"⟩
  | .sync => ⟨.store, s!"immutable artifact parent cannot be made durable: {cause}"⟩
  | .close => ⟨.store, s!"immutable artifact root cannot be closed: {cause}"⟩
  | _ => ⟨.store, s!"immutable artifact directory cleanup failed: {cause}"⟩

def flushError (path : RelativePath) (cause : String) : ArtifactError :=
  ⟨.store, s!"immutable artifact parent cannot be flushed at {path.text}: {cause}"⟩

def linkError (path : RelativePath) (cause : String) : ArtifactError :=
  ⟨.store, s!"immutable artifact cannot be linked at {path.text}: {cause}"⟩

def collisionError (path : RelativePath) : ArtifactError :=
  ⟨.collision, s!"immutable artifact collision at {path.text}"⟩

def driftError (path : RelativePath) : ArtifactError :=
  ⟨.integrity, s!"immutable artifact drifted during publication at {path.text}"⟩

/-- The failures of `_entry_identity`. -/
def identityError (label cause : String) : ArtifactError :=
  ⟨.integrity, s!"immutable artifact {label} cannot be inspected: {cause}"⟩

/-- The failures of the temporary file. -/
def temporaryError (problem cause : String) : ArtifactError :=
  ⟨.store, s!"immutable artifact temporary file cannot be {problem}: {cause}"⟩

/-- The failure of a system call while the temporary name is removed. -/
def removalError (cause : String) : SystemCall → ArtifactError
  | .stat => temporaryError "inspected for removal" cause
  | _ => temporaryError "removed" cause

/-! ## The stages of a call -/

/-- Where a call of `publish_bytes` is. -/
inductive Stage (ι : Type)
  /-- `_open_parent` -/
  | opening
  /-- `_load_optional_at` -/
  | probing
  /-- The bytes at the path are those of the call; the parent is flushed. -/
  | replaying
  /-- `_create_temporary` -/
  | creating
  /-- `_temporary_identity` -/
  | identifying
  /-- `_write_temporary`, with what remains to be written. -/
  | writing (remaining : Bytes)
  /-- `_require_entry_identity` of the temporary name. -/
  | checking
  /-- `os.link` -/
  | linking
  /-- `_load_at` after `FileExistsError`. -/
  | comparing
  /-- `_entry_identity` of the published name. -/
  | inspecting
  /-- `_load_with_metadata_at` of the published name, whose file was `linked`. -/
  | validating (linked : ι)
  /-- `_unlink_if_identity` of the published name: `os.stat`. -/
  | rollingBack (linked : ι) (error : ArtifactError)
  /-- `_unlink_if_identity` of the published name: `os.unlink`. -/
  | unlinking (error : ArtifactError)
  /-- The link is removed; the parent is flushed. -/
  | undone (error : ArtifactError)
  /-- `_flush_parent` -/
  | flushing
  /-- `_unlink_if_identity` of the temporary name, with the error that is raised afterwards. -/
  | removing (pending : Option ArtifactError)
  /-- `_close_temporary_descriptor` -/
  | closing (pending : Option ArtifactError)
  /-- The last `_load_at`. -/
  | confirming
  /-- `_artifact`, and the parent is closed. -/
  | returning
  | returned
  | raised (error : ArtifactError)
  | crashed
  deriving DecidableEq

namespace Stage

/-- The call is over. -/
def Over : Stage ι → Prop
  | returned | raised _ | crashed => True
  | _ => False

instance : ∀ stage : Stage ι, Decidable stage.Over
  | returned | raised _ | crashed => isTrue trivial
  | opening | probing | replaying | creating | identifying | writing _ | checking | linking
  | comparing | inspecting | validating _ | rollingBack _ _ | unlinking _ | undone _ | flushing
  | removing _ | closing _ | confirming | returning => isFalse id

end Stage

/-! ## A step of a call -/

section Publish

variable [DecidableEq ι] (path : RelativePath) (content : Bytes) (i : ι)

/-- A step of `publish_bytes`. An event that cannot happen at a stage changes nothing. -/
def publish (d : Directory ι) : Stage ι → StepEvent → Directory ι × Stage ι
  | .opening, .done => (d, .probing)
  | .opening, .failed call cause => (d, .raised (parentError cause call))
  | .probing, .done =>
    match d.entry with
    | none => (d, .creating)
    | some k => if d.file k ≠ content then (d, .raised (collisionError path)) else (d, .replaying)
  | .probing, .failed call cause => (d, .raised (loadError path cause call))
  | .replaying, .done => (d, .returning)
  | .replaying, .failed _ cause => (d, .raised (flushError path cause))
  | .creating, .done =>
    ({ d with
        temporary := Function.update d.temporary i true
        file := Function.update d.file i [] }, .identifying)
  | .creating, .failed _ cause => (d, .raised (temporaryError "created" cause))
  | .identifying, .done => (d, .writing content)
  -- without its identity the temporary file is not removed
  | .identifying, .failed _ cause => (d, .closing (some (temporaryError "inspected" cause)))
  | .writing [], .done => (d, .checking)
  | .writing (b :: bs), .wrote n =>
    if n = 0 then
      (d, .removing (some ⟨.store, "immutable artifact temporary write made no progress"⟩))
    else
      ({ d with file := Function.update d.file i (d.file i ++ (b :: bs).take n) },
        .writing ((b :: bs).drop n))
  | .writing _, .failed _ cause => (d, .removing (some (temporaryError "written" cause)))
  | .checking, .done => (d, .linking)
  | .checking, .failed _ cause => (d, .removing (some (identityError "temporary file" cause)))
  | .linking, .done =>
    match d.entry with
    | none => ({ d with entry := some i }, .inspecting)
    | some _ => (d, .comparing)
  | .linking, .failed _ cause => (d, .removing (some (linkError path cause)))
  | .comparing, .done =>
    match d.entry with
    | none => (d, .removing (some (missingError path)))
    | some k =>
      if d.file k ≠ content then (d, .removing (some (collisionError path))) else (d, .flushing)
  | .comparing, .failed call cause => (d, .removing (some (loadError path cause call)))
  | .inspecting, .done =>
    match d.entry with
    | none => (d, .removing (some ⟨.integrity, "immutable artifact published artifact is missing"⟩))
    | some linked => (d, .validating linked)
  -- the identity of the link is read before the link is guarded by the rollback
  | .inspecting, .failed _ cause => (d, .removing (some (identityError "published artifact" cause)))
  | .validating linked, .done =>
    match d.entry with
    | none => (d, .rollingBack linked (missingError path))
    | some opened =>
      if linked ≠ i ∨ opened ≠ linked ∨ d.file opened ≠ content then
        (d, .rollingBack linked (driftError path))
      else (d, .flushing)
  | .validating linked, .failed call cause => (d, .rollingBack linked (loadError path cause call))
  | .rollingBack linked error, .done =>
    if d.entry = some linked then (d, .unlinking error) else (d, .removing (some error))
  | .rollingBack _ error, .failed _ _ => (d, .removing (some error))
  | .unlinking error, .done =>
    match d.entry with
    | none => (d, .removing (some error))
    | some _ => ({ d with entry := none }, .undone error)
  | .unlinking error, .failed _ _ => (d, .removing (some error))
  | .undone error, .done => (d, .removing (some error))
  | .undone error, .failed _ _ => (d, .removing (some error))
  | .flushing, .done => (d, .removing none)
  | .flushing, .failed _ cause => (d, .removing (some (flushError path cause)))
  | .removing pending, .done =>
    ({ d with temporary := Function.update d.temporary i false }, .closing pending)
  | .removing (some error), .failed _ _ => (d, .closing (some error))
  | .removing none, .failed call cause => (d, .closing (some (removalError cause call)))
  | .closing (some error), .done => (d, .raised error)
  | .closing none, .done => (d, .confirming)
  | .closing (some error), .failed _ _ => (d, .raised error)
  | .closing none, .failed _ cause => (d, .raised (temporaryError "closed" cause))
  | .confirming, .done =>
    match d.entry with
    | none => (d, .raised (missingError path))
    | some k => if d.file k ≠ content then (d, .raised (driftError path)) else (d, .returning)
  | .confirming, .failed call cause => (d, .raised (loadError path cause call))
  | .returning, .done => (d, .returned)
  | .returning, .failed call cause => (d, .raised (parentError cause call))
  | stage, .crashed => if stage.Over then (d, stage) else (d, .crashed)
  | stage, _ => (d, stage)

variable {path content i} in
/-- A call writes no file but its own. -/
lemma publish_file_of_ne {j : ι} (h : j ≠ i) {d : Directory ι} {stage : Stage ι}
    {event : StepEvent} : (publish path content i d stage event).1.file j = d.file j := by
  fun_cases publish path content i d stage event <;> simp [h]

end Publish

/-! ## The calls on a path -/

variable [DecidableEq ι]

/-- Any number of calls on one path, each with the bytes that it was given. -/
def publication (path : RelativePath) (content : ι → Bytes) :
    Interleaving ι (Directory ι) (Stage ι) StepEvent where
  step i d stage event := publish path (content i) i d stage event

/-- Nothing is stored at the path, and no call has begun. -/
def unpublished : Interleaving.Config ι (Directory ι) (Stage ι) where
  shared := {}
  place := fun _ => .opening

end Store

end AecBench.Ledger.ImmutableByteStore
