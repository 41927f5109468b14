import Mathlib.Data.List.Sort
import Mathlib.Data.List.Infix
import Mathlib.Data.Set.List
import Mathlib.Data.String.Basic
import AecBench.Lib.Framing

/-!
# The identity of a lifecycle package

`_package_sha256` hashes one stream: for every file of the package, in the order of the paths, the
length of the path, the path, and then the content. The path is framed and the content is not, so a
content that holds the frame of a later path reads like two files.

## Main definitions

* `PackageDirectory` — what `rglob` lists of a package: files and symbolic links.
* `PackageDirectory.stream`, `packageSha256` — the bytes that are hashed, and the identity.
* `PackageDirectory.Sealed` — no other package can have the same stream.

## Main results

* `stream_eq_ok` — the stream of a package without symbolic links.
* `identity_determines_files` — which packages are determined by their identity.
-/

namespace AecBench.Lifecycles

open Framing

/-! ### Paths and their encoding -/

/-- The parts of a path below the package. -/
abbrev RelativePath := List String

/-- A name a directory can hold: not empty, neither `.` nor `..`, without `/` and the null byte. -/
def ValidName (name : String) : Prop :=
  name ≠ "" ∧ name ≠ "." ∧ name ≠ ".." ∧ '/' ∉ name.toList ∧ '\x00' ∉ name.toList

instance decidableValidName : DecidablePred ValidName := fun _ => inferInstanceAs (Decidable (_ ∧ _))

/-- `path.as_posix().encode("utf-8")`. -/
def encodedPath (path : RelativePath) : List UInt8 :=
  ("/".intercalate path).toByteArray.data.toList

/-- A path of a file: it has a name, and its length fits in the eight bytes of the frame. -/
def ValidPath (path : RelativePath) : Prop :=
  path ≠ [] ∧ (∀ name ∈ path, ValidName name) ∧ (encodedPath path).length < 2 ^ 64

instance decidableValidPath : DecidablePred ValidPath := fun _ => inferInstanceAs (Decidable (_ ∧ _))

/-- Two files stand beside each other: neither path is the other one or a directory above it. -/
def Beside (p q : RelativePath) : Prop := ¬ p <+: q ∧ ¬ q <+: p

instance decidableBeside (p q : RelativePath) : Decidable (Beside p q) :=
  inferInstanceAs (Decidable (_ ∧ _))

variable {p q : RelativePath}

lemma Beside.symm (h : Beside p q) : Beside q p := ⟨h.2, h.1⟩

lemma encodedPath_injective (hp : ValidPath p) (hq : ValidPath q)
    (h : encodedPath p = encodedPath q) : p = q := by
  have htext : "/".intercalate p = "/".intercalate q := by
    apply String.toByteArray_inj.mp
    exact ByteArray.ext (Array.ext' h)
  have hparts : (p.map String.toList) = (q.map String.toList) := by
    have := congrArg (fun text => text.toList.splitOn '/') htext
    simp only [String.toList_intercalate] at this
    have hslash : "/".toList = ['/'] := rfl
    rw [hslash, List.splitOn_intercalate _ (by simpa using fun name hn => (hp.2.1 name hn).2.2.2.1)
        (by simpa using hp.1),
      List.splitOn_intercalate _ (by simpa using fun name hn => (hq.2.1 name hn).2.2.2.1)
        (by simpa using hq.1)] at this
    exact this
  exact List.map_injective_iff.mpr (fun _ _ h => String.toList_injective h) hparts

/-! ### Packages -/

/-- What `path.is_file() or path.is_symlink()` holds of. -/
inductive EntryKind where
  | file (content : List UInt8)
  | symlink
  deriving DecidableEq

structure Entry where
  path : RelativePath
  kind : EntryKind

/-- The files and symbolic links below a package, in the order in which `rglob` lists them. -/
structure PackageDirectory where
  entries : List Entry
  valid : ∀ entry ∈ entries, ValidPath entry.path
  beside : entries.Pairwise fun a b => Beside a.path b.path

namespace PackageDirectory

/-- `sorted(...)`: paths are compared part by part. -/
def sorted (package : PackageDirectory) : List Entry :=
  package.entries.insertionSort fun a b => a.path ≤ b.path

/-- What one entry adds to the stream. -/
def updateEntry (packageDir : String) (stream : List UInt8) (entry : Entry) :
    Except String (List UInt8) :=
  match entry.kind with
  | .symlink =>
    .error ("lifecycle packages may not contain symlinks: " ++ packageDir ++ "/" ++
      "/".intercalate entry.path)
  | .file content => .ok (stream ++ frame (encodedPath entry.path) ++ content)

/-- The bytes that `_package_sha256` feeds to the digest. -/
def stream (packageDir : String) (package : PackageDirectory) : Except String (List UInt8) :=
  package.sorted.foldlM (updateEntry packageDir) []

end PackageDirectory

/-- `_package_sha256(package_dir)`; nothing is found where the path is not a directory. -/
def packageSha256 {δ : Type} (sha256 : List UInt8 → δ) (packageDir : String)
    (found : Option PackageDirectory) : Except String δ :=
  match found with
  | none => .error ("lifecycle package not found: " ++ packageDir)
  | some package => (package.stream packageDir).map sha256

/-! ### The stream of files -/

/-- A file and its content. -/
abbrev PackageFile := RelativePath × List UInt8

/-- The entry of a file. -/
def PackageFile.entry (file : PackageFile) : Entry := ⟨file.1, .file file.2⟩

/-- The frame of the path, and the content after it. -/
def PackageFile.bytes (file : PackageFile) : List UInt8 := frame (encodedPath file.1) ++ file.2

lemma entry_injective : Function.Injective PackageFile.entry := by
  rintro ⟨p, c⟩ ⟨q, d⟩ h
  simpa [PackageFile.entry] using h

namespace PackageDirectory

/-- The set of `(relative path, file bytes)` pairs of the package. -/
def files (package : PackageDirectory) : List PackageFile :=
  package.entries.filterMap fun entry =>
    match entry.kind with
    | .file content => some (entry.path, content)
    | .symlink => none

variable {packageDir : String}

lemma foldlM_updateEntry_eq_ok {entries : List Entry} {start out : List UInt8} :
    entries.foldlM (updateEntry packageDir) start = .ok out ↔
      ∃ files : List PackageFile, entries = files.map PackageFile.entry ∧
        out = start ++ files.flatMap PackageFile.bytes := by
  induction entries generalizing start with
  | nil =>
    constructor
    · intro h
      refine ⟨[], rfl, ?_⟩
      simpa [eq_comm, pure, Except.pure] using h
    · rintro ⟨files, hfiles, rfl⟩
      obtain rfl := List.map_eq_nil_iff.mp hfiles.symm
      simp [pure, Except.pure]
  | cons entry rest ih =>
    obtain ⟨path, kind⟩ := entry
    cases kind with
    | symlink =>
      constructor
      · intro h
        cases h
      · rintro ⟨files, hfiles, -⟩
        cases files with
        | nil => simp at hfiles
        | cons file files => simp [PackageFile.entry] at hfiles
    | file content =>
      have hstep : (⟨path, .file content⟩ :: rest).foldlM (updateEntry packageDir) start =
          rest.foldlM (updateEntry packageDir)
            (start ++ frame (encodedPath path) ++ content) := rfl
      rw [hstep, ih]
      constructor
      · rintro ⟨files, rfl, rfl⟩
        exact ⟨(path, content) :: files, rfl, by simp [PackageFile.bytes]⟩
      · rintro ⟨files, hfiles, rfl⟩
        cases files with
        | nil => simp at hfiles
        | cons file files =>
          obtain ⟨p, c⟩ := file
          obtain ⟨⟨rfl, rfl⟩, rfl⟩ := hfiles
          exact ⟨files, rfl, by simp [PackageFile.bytes]⟩

variable {package : PackageDirectory}

/-- **The stream of a package without symbolic links** is the stream of its files, in the order of
their paths. -/
theorem stream_eq_ok {out : List UInt8} :
    package.stream packageDir = .ok out ↔
      ∃ files : List PackageFile, package.sorted = files.map PackageFile.entry ∧
        out = files.flatMap PackageFile.bytes := by
  rw [stream, foldlM_updateEntry_eq_ok]
  simp

lemma files_perm {files : List PackageFile} (h : package.sorted = files.map PackageFile.entry) :
    package.files.Perm files := by
  have hperm := (List.perm_insertionSort (fun a b : Entry => a.path ≤ b.path) package.entries)
  have hfiles : files = (package.sorted).filterMap fun entry =>
      match entry.kind with
      | .file content => some (entry.path, content)
      | .symlink => none := by
    rw [h, List.filterMap_map]
    exact (List.filterMap_some).symm
  rw [hfiles]
  exact (hperm.symm).filterMap _

lemma sorted_files {files : List PackageFile} (h : package.sorted = files.map PackageFile.entry) :
    (∀ file ∈ files, ValidPath file.1) ∧ (files.Pairwise fun a b => Beside a.1 b.1) ∧
      files.Pairwise fun a b => a.1 ≤ b.1 := by
  have hperm := List.perm_insertionSort (fun a b : Entry => a.path ≤ b.path) package.entries
  have hordered := List.pairwise_insertionSort (fun a b : Entry => a.path ≤ b.path) package.entries
  have hbeside : package.sorted.Pairwise fun a b => Beside a.path b.path :=
    (hperm.pairwise_iff fun h => h.symm).mpr package.beside
  refine ⟨?_, ?_, ?_⟩
  · intro file hfile
    have hentry : file.entry ∈ package.sorted := by
      rw [h]
      exact List.mem_map_of_mem hfile
    exact package.valid file.entry (hperm.mem_iff.mp hentry)
  · rw [h, List.pairwise_map] at hbeside
    exact hbeside
  · have hsorted : package.sorted.Pairwise fun a b => a.path ≤ b.path := hordered
    rw [h, List.pairwise_map] at hsorted
    exact hsorted

/-- The package that holds given files. -/
def ofFiles (files : List PackageFile) (valid : ∀ file ∈ files, ValidPath file.1)
    (beside : files.Pairwise fun a b => Beside a.1 b.1) : PackageDirectory where
  entries := files.map PackageFile.entry
  valid := by
    intro entry hentry
    obtain ⟨file, hfile, rfl⟩ := List.mem_map.mp hentry
    exact valid file hfile
  beside := List.pairwise_map.mpr beside

lemma sorted_ofFiles {files : List PackageFile} (valid : ∀ file ∈ files, ValidPath file.1)
    (beside : files.Pairwise fun a b => Beside a.1 b.1)
    (ordered : files.Pairwise fun a b => a.1 ≤ b.1) :
    (ofFiles files valid beside).sorted = files.map PackageFile.entry := by
  apply List.Pairwise.insertionSort_eq
  exact List.pairwise_map.mpr ordered

/-! ### Which packages have a stream of their own -/

/-- The two packages hold the same `(relative path, file bytes)` pairs. -/
def SameFiles (package other : PackageDirectory) : Prop :=
  ∀ file, file ∈ package.files ↔ file ∈ other.files

/-- No package with other files feeds the same bytes to the digest. -/
def StreamDetermines (packageDir : String) (package : PackageDirectory) : Prop :=
  ∀ otherDir other bytes, package.stream packageDir = .ok bytes →
    stream otherDir other = .ok bytes → package.SameFiles other

/-- No package with other files has the same identity. -/
def IdentityDetermines {δ : Type} (sha256 : List UInt8 → δ) (packageDir : String)
    (package : PackageDirectory) : Prop :=
  ∀ otherDir other identity, packageSha256 sha256 packageDir (some package) = .ok identity →
    packageSha256 sha256 otherDir (some other) = .ok identity → package.SameFiles other

/-- The package has no identity at all, or no file, or one file whose content nowhere holds the
frame of a path that can stand after its own. -/
def Sealed (package : PackageDirectory) : Prop :=
  (∃ entry ∈ package.entries, entry.kind = .symlink) ∨ package.entries = [] ∨
    ∃ path content, package.entries = [⟨path, .file content⟩] ∧
      ∀ next, ValidPath next → path < next → Beside path next →
        ¬ frame (encodedPath next) <:+: content

lemma bytes_append_injective {file other : PackageFile} {x y : List UInt8}
    (hf : ValidPath file.1) (ho : ValidPath other.1)
    (h : file.bytes ++ x = other.bytes ++ y) : file.1 = other.1 ∧ file.2 ++ x = other.2 ++ y := by
  simp only [PackageFile.bytes, List.append_assoc] at h
  obtain ⟨hpath, hrest⟩ := frame_append_injective hf.2.2 ho.2.2 h
  exact ⟨encodedPath_injective hf ho hpath, hrest⟩

lemma bytes_ne_nil (file : PackageFile) : file.bytes ≠ [] := by
  simp [PackageFile.bytes, frame_ne_nil]

lemma lt_of_beside (hle : p ≤ q) (h : Beside p q) : p < q := by
  refine lt_of_le_of_ne hle ?_
  rintro rfl
  exact h.1 (List.prefix_refl p)

lemma Sealed.files_eq (hsealed : package.Sealed) {files others : List PackageFile}
    (hsorted : package.sorted = files.map PackageFile.entry)
    (hvalid : ∀ file ∈ others, ValidPath file.1)
    (hbeside : others.Pairwise fun a b => Beside a.1 b.1)
    (hordered : others.Pairwise fun a b => a.1 ≤ b.1)
    (h : files.flatMap PackageFile.bytes = others.flatMap PackageFile.bytes) : files = others := by
  have hperm := List.perm_insertionSort (fun a b : Entry => a.path ≤ b.path) package.entries
  rcases hsealed with ⟨entry, hentry, hkind⟩ | hempty | ⟨path, content, hone, hfree⟩
  · have hmem : entry ∈ files.map PackageFile.entry := hsorted ▸ hperm.mem_iff.mpr hentry
    obtain ⟨file, -, rfl⟩ := List.mem_map.mp hmem
    cases hkind
  · have hnil : package.sorted = [] := by simp [sorted, hempty]
    obtain rfl : files = [] := by simpa [hnil] using hsorted
    cases others with
    | nil => rfl
    | cons other others => simp [bytes_ne_nil] at h
  · have hsingle : package.sorted = [⟨path, .file content⟩] := by simp [sorted, hone]
    obtain rfl : files = [(path, content)] := by
      apply List.map_injective_iff.mpr entry_injective
      rw [← hsorted, hsingle]
      rfl
    have hpath : ValidPath path := package.valid _ (by rw [hone]; exact List.mem_singleton_self _)
    cases others with
    | nil => simp [bytes_ne_nil] at h
    | cons other others =>
      simp only [List.flatMap_cons, List.flatMap_nil] at h
      obtain ⟨hsame, hcontent⟩ :=
        bytes_append_injective hpath (hvalid other List.mem_cons_self) h
      rw [List.append_nil] at hcontent
      dsimp only at hsame hcontent
      cases others with
      | nil =>
        rw [List.flatMap_nil, List.append_nil] at hcontent
        exact congrArg (· :: []) (Prod.ext hsame hcontent)
      | cons next others =>
        -- a second file would put the frame of its path inside the content of the first
        have hstands : Beside path next.1 := hsame ▸ List.rel_of_pairwise_cons hbeside
          List.mem_cons_self
        have hle : path ≤ next.1 := hsame ▸ List.rel_of_pairwise_cons hordered List.mem_cons_self
        refine absurd ?_ (hfree next.1
          (hvalid next (List.mem_cons_of_mem _ List.mem_cons_self)) (lt_of_beside hle hstands)
          hstands)
        refine ⟨other.2, next.2 ++ others.flatMap PackageFile.bytes, ?_⟩
        rw [hcontent]
        simp [PackageFile.bytes]

lemma exists_files (h : ¬ ∃ entry ∈ package.entries, entry.kind = .symlink) :
    ∃ files : List PackageFile, package.sorted = files.map PackageFile.entry := by
  have hperm := List.perm_insertionSort (fun a b : Entry => a.path ≤ b.path) package.entries
  have hall : ∀ entry ∈ package.sorted, ∃ file : PackageFile, file.entry = entry := by
    rintro ⟨path, kind⟩ hentry
    cases kind with
    | symlink => exact absurd ⟨_, hperm.mem_iff.mp hentry, rfl⟩ h
    | file content => exact ⟨(path, content), rfl⟩
  have hrange : package.sorted ∈ Set.range (List.map PackageFile.entry) := by
    rw [Set.range_list_map]
    exact hall
  obtain ⟨files, hfiles⟩ := hrange
  exact ⟨files, hfiles.symm⟩

/-- A package whose files can be read in another way shares its stream with another package. -/
lemma sameFiles_ofFiles (h : package.StreamDetermines packageDir) {files : List PackageFile}
    (hsorted : package.sorted = files.map PackageFile.entry) (others : List PackageFile)
    (hvalid : ∀ file ∈ others, ValidPath file.1)
    (hbeside : others.Pairwise fun a b => Beside a.1 b.1)
    (hordered : others.Pairwise fun a b => a.1 ≤ b.1)
    (hbytes : files.flatMap PackageFile.bytes = others.flatMap PackageFile.bytes)
    (file : PackageFile) : file ∈ files ↔ file ∈ others := by
  have hother := sorted_ofFiles hvalid hbeside hordered
  have hsame := h "" (ofFiles others hvalid hbeside) (files.flatMap PackageFile.bytes)
    (stream_eq_ok.mpr ⟨files, hsorted, rfl⟩) (stream_eq_ok.mpr ⟨others, hother, hbytes⟩) file
  rwa [(files_perm hsorted).mem_iff, (files_perm hother).mem_iff] at hsame

lemma sealed_of_streamDetermines (h : package.StreamDetermines packageDir) : package.Sealed := by
  by_cases hlink : ∃ entry ∈ package.entries, entry.kind = .symlink
  · exact .inl hlink
  obtain ⟨files, hsorted⟩ := exists_files hlink
  obtain ⟨hvalid, hbeside, hordered⟩ := sorted_files hsorted
  have hperm := List.perm_insertionSort (fun a b : Entry => a.path ≤ b.path) package.entries
  have hentries : package.entries.Perm (files.map PackageFile.entry) := hsorted ▸ hperm.symm
  match files with
  | [] => exact .inr (.inl hentries.eq_nil)
  | [(path, content)] =>
    refine .inr (.inr ⟨path, content, List.perm_singleton.mp hentries, ?_⟩)
    rintro next hnext hlt hstands ⟨before, after, rfl⟩
    have hsame := sameFiles_ofFiles h hsorted [(path, before), (next, after)]
      (by
        intro file hfile
        obtain rfl | rfl := by simpa using hfile
        · exact hvalid (path, before ++ frame (encodedPath next) ++ after)
            (List.mem_singleton_self _)
        · exact hnext)
      (by simpa using hstands) (by simpa using hlt.le) (by simp [PackageFile.bytes])
      (next, after)
    have hmem := hsame.mpr (by simp)
    obtain ⟨rfl, -⟩ := Prod.mk.inj (List.mem_singleton.mp hmem)
    exact absurd hlt (lt_irrefl _)
  | first :: second :: rest =>
    obtain ⟨hfirst, hrest⟩ := List.pairwise_cons.mp hbeside
    obtain ⟨hfirstLe, hrestLe⟩ := List.pairwise_cons.mp hordered
    have hsame := sameFiles_ofFiles h hsorted
      ((first.1, first.2 ++ second.bytes) :: rest)
      (by
        intro file hfile
        rcases List.mem_cons.mp hfile with rfl | hin
        · exact hvalid first List.mem_cons_self
        · exact hvalid file (List.mem_cons_of_mem _ (List.mem_cons_of_mem _ hin)))
      (List.pairwise_cons.mpr ⟨fun file hin => hfirst file (List.mem_cons_of_mem _ hin),
        (List.pairwise_cons.mp hrest).2⟩)
      (List.pairwise_cons.mpr ⟨fun file hin => hfirstLe file (List.mem_cons_of_mem _ hin),
        (List.pairwise_cons.mp hrestLe).2⟩)
      (by simp [PackageFile.bytes]) second
    have hmem := hsame.mp (List.mem_cons_of_mem _ List.mem_cons_self)
    rcases List.mem_cons.mp hmem with heq | hin
    · have hstands : Beside first.1 second.1 := hfirst second List.mem_cons_self
      rw [heq] at hstands
      exact absurd (List.prefix_refl _) hstands.1
    · exact absurd (List.prefix_refl _) ((List.pairwise_cons.mp hrest).1 second hin).1

lemma Sealed.streamDetermines (h : package.Sealed) (packageDir : String) :
    package.StreamDetermines packageDir := by
  intro otherDir other bytes hstream hother file
  obtain ⟨files, hsorted, rfl⟩ := stream_eq_ok.mp hstream
  obtain ⟨others, hothers, hbytes⟩ := stream_eq_ok.mp hother
  obtain ⟨hvalid, hbeside, hordered⟩ := sorted_files hothers
  obtain rfl := h.files_eq hsorted hvalid hbeside hordered hbytes
  rw [(files_perm hsorted).mem_iff, (files_perm hothers).mem_iff]

lemma identityDetermines_iff {δ : Type} {sha256 : List UInt8 → δ}
    (collisionFree : Function.Injective sha256) :
    package.IdentityDetermines sha256 packageDir ↔ package.StreamDetermines packageDir := by
  constructor
  · intro h otherDir other bytes hstream hother
    refine h otherDir other (sha256 bytes) ?_ ?_
    · simp [packageSha256, hstream, Except.map]
    · simp [packageSha256, hother, Except.map]
  · intro h otherDir other identity hid hother
    simp only [packageSha256] at hid hother
    cases hstream : package.stream packageDir with
    | error e => simp [hstream, Except.map] at hid
    | ok bytes =>
      cases hotherStream : stream otherDir other with
      | error e => simp [hotherStream, Except.map] at hother
      | ok otherBytes =>
        rw [hstream] at hid
        rw [hotherStream] at hother
        obtain rfl := collisionFree (Except.ok.inj (hid.trans hother.symm))
        exact h otherDir other bytes hstream hotherStream

end PackageDirectory

open PackageDirectory

/-- **The identity of a package determines its files** exactly when the package is sealed. Of a
package with two files or more it never does: the content of a file is not framed, so the second
file can be moved into the content of the first. -/
theorem identity_determines_files {δ : Type} (sha256 : List UInt8 → δ)
    (collisionFree : Function.Injective sha256) (packageDir : String)
    (package : PackageDirectory) :
    (package.StreamDetermines packageDir ↔ package.Sealed) ∧
      (package.IdentityDetermines sha256 packageDir ↔ package.Sealed) := by
  have hstream : package.StreamDetermines packageDir ↔ package.Sealed :=
    ⟨sealed_of_streamDetermines, fun h => h.streamDetermines packageDir⟩
  exact ⟨hstream, (identityDetermines_iff collisionFree).trans hstream⟩

/-- A package of two notes beside its contract. -/
def notesApart : PackageDirectory :=
  ofFiles [(["lifecycle.json"], [123, 125]), (["notes", "a.md"], []), (["notes", "b.md"], [88])]
    (by decide +kernel) (by decide +kernel)

/-- The package whose first note holds the frame and the content of the second. -/
def notesMerged : PackageDirectory :=
  ofFiles [(["lifecycle.json"], [123, 125]),
      (["notes", "a.md"], PackageFile.bytes (["notes", "b.md"], [88]))]
    (by decide +kernel) (by decide +kernel)

/-- The theorem on a hash without collisions. -/
theorem notesApart_not_determined :
    (notesApart.StreamDetermines "package" ↔ notesApart.Sealed) ∧
      (notesApart.IdentityDetermines (id : List UInt8 → List UInt8) "package" ↔
        notesApart.Sealed) :=
  identity_determines_files id Function.injective_id "package" notesApart

/-- **Two packages with one stream**: the files differ, and the digest is fed the same bytes. -/
theorem merged_notes_share_stream :
    ¬ notesApart.SameFiles notesMerged ∧
      notesApart.stream "package" = notesMerged.stream "copy" ∧
      ∀ sha256 : List UInt8 → ℕ, packageSha256 sha256 "package" (some notesApart) =
        packageSha256 sha256 "copy" (some notesMerged) := by
  have hstream : notesApart.stream "package" = notesMerged.stream "copy" := by decide +kernel
  refine ⟨fun h => ?_, hstream, fun sha256 => ?_⟩
  · have hfile : (["notes", "b.md"], [88]) ∈ notesApart.files := by decide +kernel
    have hmerged : (["notes", "b.md"], [88]) ∉ notesMerged.files := by decide +kernel
    exact hmerged ((h _).mp hfile)
  · simp only [packageSha256, hstream]

end AecBench.Lifecycles
