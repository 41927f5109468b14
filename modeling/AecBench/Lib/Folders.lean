import Mathlib.Data.List.Infix

/-!
# Trees of folders

A tree of folders and files, and an access to one entry: the folders above it are entered, and made
where they are missing, and then the entry is read or changed. An access has the same answer in two
trees that are alike on its own paths, as long as the other folders on its way are no files.

## Main definitions

* `Folders.Tree`, `Folders.WellFormed` — the entries of a tree, below folders.
* `Folders.enter`, `Folders.access` — entering folders, and an access to an entry.
* `Folders.Alike` — two trees that some paths cannot tell apart.

## Main results

* `Folders.access_alike` — an access to an own path has one answer, and keeps trees alike.
* `Folders.access_apart` — so does an access to somebody else's path in one of them.
-/

namespace Folders

variable {N β R : Type} [DecidableEq N]

inductive Node (β : Type)
  | folder
  | file (content : β)
  deriving DecidableEq

/-- The entry at every path. -/
abbrev Tree (N β : Type) := List N → Option (Node β)

/-- The root is a folder, and so is what an entry is in. -/
structure WellFormed (t : Tree N β) : Prop where
  root : t [] = some .folder
  above : ∀ p n, t (p ++ [n]) ≠ none → t p = some .folder

/-- Why a folder cannot be entered. -/
inductive Fault
  | absent
  | notFolder
  deriving DecidableEq

/-- Enter the folders of a path one by one; a missing one is made when `create` is set. -/
def enter (create : Bool) : List N → List N → Tree N β → Except Fault Unit × Tree N β
  | _, [], t => (.ok (), t)
  | done, name :: rest, t =>
    match t (done ++ [name]) with
    | some .folder => enter create (done ++ [name]) rest t
    | some (.file _) => (.error .notFolder, t)
    | none =>
      if create then
        enter create (done ++ [name]) rest (Function.update t (done ++ [name]) (some .folder))
      else (.error .absent, t)

/-- What an access does at its entry: its answer, and the entry it leaves. -/
abbrev EntryAction (β R : Type) := Option (Node β) → R × Option (Node β)

/-- Enter the folders of `parent`, and act on the entry `name` in them. -/
def access (create : Bool) (act : EntryAction β R) (fail : Fault → R) (parent : List N) (name : N)
    (t : Tree N β) : R × Tree N β :=
  match enter create [] parent t with
  | (.error fault, t) => (fail fault, t)
  | (.ok (), t) =>
    ((act (t (parent ++ [name]))).1,
      Function.update t (parent ++ [name]) (act (t (parent ++ [name]))).2)

/-- An action that leaves folders and files what they are, and makes no folder. -/
structure EntryAction.Keeps (act : EntryAction β R) : Prop where
  folder : (act (some .folder)).2 = some .folder
  file : ∀ c, ∃ c', (act (some (.file c))).2 = some (.file c')
  absent : (act none).2 = none ∨ ∃ c, (act none).2 = some (.file c)

/-! ## Entering folders -/

/-- The tree with all folders of a path. -/
def withFolders (t : Tree N β) (path : List N) : Tree N β :=
  fun p => if p <+: path then some .folder else t p

section Enter

variable {t : Tree N β} {done rest path p : List N} {create : Bool}

@[simp] lemma enter_nil : enter create done [] t = (.ok (), t) := rfl

lemma enter_cons {n : N} : enter create done (n :: rest) t =
    match t (done ++ [n]) with
    | some .folder => enter create (done ++ [n]) rest t
    | some (.file _) => (.error .notFolder, t)
    | none =>
      if create then
        enter create (done ++ [n]) rest (Function.update t (done ++ [n]) (some .folder))
      else (.error .absent, t) := rfl

lemma withFolders_apply :
    withFolders t path p = if p <+: path then some .folder else t p := rfl

variable (h : WellFormed t)
include h

omit [DecidableEq N] in
/-- What an entry is in are folders. -/
lemma WellFormed.folder_of_prefix {tail : List N} (hne : tail ≠ []) (hp : t (p ++ tail) ≠ none) :
    t p = some .folder := by
  induction tail using List.reverseRecOn with
  | nil => exact absurd rfl hne
  | append_singleton tail n ih =>
    rw [← List.append_assoc] at hp
    have hparent := h.above _ _ hp
    cases tail with
    | nil => simpa using hparent
    | cons m tail => exact ih (List.cons_ne_nil _ _) (by rw [hparent]; simp)

omit [DecidableEq N] in
/-- A folder is in folders. -/
lemma WellFormed.folder_above (hpath : t path = some .folder) (hp : p <+: path) :
    t p = some .folder := by
  obtain ⟨tail, rfl⟩ := hp
  cases tail with
  | nil => simpa using hpath
  | cons n tail => exact h.folder_of_prefix (List.cons_ne_nil _ _) (by rw [hpath]; simp)

/-- A new folder in a folder. -/
lemma WellFormed.make {n : N} (hdone : t done = some .folder) :
    WellFormed (Function.update t (done ++ [n]) (some .folder)) := by
  constructor
  · rw [Function.update_of_ne (by simp)]
    exact h.root
  · intro p m hp
    by_cases hchild : p ++ [m] = done ++ [n]
    · obtain ⟨rfl, -⟩ := List.append_inj' hchild rfl
      rwa [Function.update_of_ne (by simp)]
    · rw [Function.update_of_ne hchild] at hp
      have hfolder := h.above p m hp
      by_cases hp' : p = done ++ [n]
      · rw [hp', Function.update_self]
      · rwa [Function.update_of_ne hp']

/-- **A file on the way** stops an entry before it changes anything. -/
lemma enter_of_file {before after : List N} {c : β} (hrest : rest = before ++ after)
    (hne : before ≠ []) (hfile : t (done ++ before) = some (.file c)) :
    enter create done rest t = (.error .notFolder, t) := by
  subst hrest
  induction before generalizing done with
  | nil => exact absurd rfl hne
  | cons n before ih =>
    rw [List.cons_append, enter_cons]
    cases before with
    | nil => simp only [hfile]
    | cons m before =>
      have hfile' : t ((done ++ [n]) ++ (m :: before)) = some (.file c) := by simpa using hfile
      have hfolder : t (done ++ [n]) = some .folder :=
        h.folder_of_prefix (List.cons_ne_nil _ _) (by rw [hfile']; simp)
      simp only [hfolder]
      exact ih (List.cons_ne_nil _ _) hfile'

/-- **Without a file on the way** all folders can be made. -/
lemma enter_create (hdone : t done = some .folder)
    (hfree : ∀ before, before <+: rest → ∀ c, t (done ++ before) ≠ some (.file c)) :
    enter true done rest t = (.ok (), withFolders t (done ++ rest)) := by
  induction rest generalizing done t with
  | nil =>
    rw [enter_nil, List.append_nil]
    congr 1
    funext p
    rw [withFolders_apply]
    split_ifs with hp
    · exact h.folder_above hdone hp
    · rfl
  | cons n rest ih =>
    have hpath : done ++ n :: rest = (done ++ [n]) ++ rest := by simp
    have hnext : ∀ before, before <+: rest → ∀ c,
        t ((done ++ [n]) ++ before) ≠ some (.file c) := by
      intro before hbefore c
      have hne := hfree (n :: before) (List.cons_prefix_cons.mpr ⟨rfl, hbefore⟩) c
      simpa using hne
    rw [enter_cons, hpath]
    cases hn : t (done ++ [n]) with
    | none =>
      simp only [if_true]
      rw [ih (h.make hdone) (Function.update_self ..) ?_]
      · congr 1
        funext p
        simp only [withFolders_apply]
        split_ifs with hp
        · rfl
        · refine Function.update_of_ne ?_ _ _
          rintro rfl
          exact hp (List.prefix_append _ _)
      · intro before hbefore c hfile
        by_cases hnil : before = []
        · rw [hnil, List.append_nil, Function.update_self] at hfile
          cases hfile
        · rw [Function.update_of_ne (by simpa using hnil)] at hfile
          exact hnext before hbefore c hfile
    | some node =>
      cases node with
      | folder => exact ih h hn hnext
      | file c => exact absurd hn (hfree [n] (List.cons_prefix_cons.mpr ⟨rfl, List.nil_prefix⟩) c)

/-- An entry that makes nothing finds the folders. -/
lemma enter_found (hfolder : t (done ++ rest) = some .folder) :
    enter false done rest t = (.ok (), t) := by
  induction rest generalizing done with
  | nil => rfl
  | cons n rest ih =>
    have hpath : t ((done ++ [n]) ++ rest) = some .folder := by simpa using hfolder
    have hn : t (done ++ [n]) = some .folder :=
      h.folder_above hpath (List.prefix_append (done ++ [n]) rest)
    rw [enter_cons]
    simp only [hn]
    exact ih hpath

omit h

/-- It finds one of them missing where none is a file. -/
lemma enter_missing (hdone : t done = some .folder)
    (hfree : ∀ before, before <+: rest → ∀ c, t (done ++ before) ≠ some (.file c))
    (hfolder : t (done ++ rest) ≠ some .folder) :
    enter false done rest t = (.error .absent, t) := by
  induction rest generalizing done with
  | nil => exact absurd (by simpa using hdone) hfolder
  | cons n rest ih =>
    rw [enter_cons]
    cases hn : t (done ++ [n]) with
    | none => simp
    | some node =>
      cases node with
      | folder =>
        refine ih hn (fun before hbefore c => ?_) (by simpa using hfolder)
        have hne := hfree (n :: before) (List.cons_prefix_cons.mpr ⟨rfl, hbefore⟩) c
        simpa using hne
      | file c => exact absurd hn (hfree [n] (List.cons_prefix_cons.mpr ⟨rfl, List.nil_prefix⟩) c)

omit [DecidableEq N] in
/-- A path has a file on the way, or none. -/
lemma file_or_free (t : Tree N β) (path : List N) :
    (∃ before c, before <+: path ∧ before ≠ [] ∧ t before = some (.file c)) ∨
      ∀ before, before <+: path → before ≠ [] → ∀ c, t before ≠ some (.file c) := by
  by_cases h : ∃ before c, before <+: path ∧ before ≠ [] ∧ t before = some (.file c)
  · exact .inl h
  · push Not at h
    exact .inr fun before hp hne c => h before c hp hne

end Enter

/-! ## Trees that are alike -/

section Alike

variable {t t' : Tree N β} {own shared : List N → Prop} {create : Bool} {act : EntryAction β R}
  {fail : Fault → R} {parent : List N} {name : N}

/-- Two trees that agree on the own paths, and have no file where paths are shared. -/
structure Alike (own shared : List N → Prop) (t t' : Tree N β) : Prop where
  left : WellFormed t
  right : WellFormed t'
  same : ∀ p, own p → t p = t' p
  free : ∀ p, shared p → ∀ c, t p ≠ some (.file c) ∧ t' p ≠ some (.file c)

/-- The path of an access: what is on the way to it is shared or its own, and it is its own; an
access that makes no folders looks into a folder of its own. -/
structure Reaches (own shared : List N → Prop) (create : Bool) (parent : List N) (name : N) :
    Prop where
  way : ∀ p, p <+: parent → own p ∨ shared p
  entry : own (parent ++ [name])
  within : create = false → own parent

/-- How an access ends: at a file on the way, at a missing folder, or at its entry. -/
inductive Accesses (create : Bool) (act : EntryAction β R) (fail : Fault → R) (parent : List N) (name : N)
    (t : Tree N β) : R × Tree N β → Prop
  | file (before : List N) (c : β) (on_way : before <+: parent) (found : t before = some (.file c)) :
      Accesses create act fail parent name t (fail .notFolder, t)
  | absent (finds : create = false) (missing : t parent ≠ some .folder)
      (free : ∀ before, before <+: parent → ∀ c, t before ≠ some (.file c)) :
      Accesses create act fail parent name t (fail .absent, t)
  | entry (t₁ : Tree N β) (entered : t₁ = if create then withFolders t parent else t)
      (folder : t₁ parent = some .folder)
      (free : ∀ before, before <+: parent → ∀ c, t before ≠ some (.file c)) :
      Accesses create act fail parent name t
        ((act (t₁ (parent ++ [name]))).1,
          Function.update t₁ (parent ++ [name]) (act (t₁ (parent ++ [name]))).2)

variable (h : WellFormed t)
include h

/-- **How an access ends.** -/
theorem accesses :
    Accesses create act fail parent name t (access create act fail parent name t) := by
  rcases file_or_free t parent with ⟨before, c, ⟨after, rfl⟩, hne, hfile⟩ | hfree
  · have hway : t ([] ++ before) = some (.file c) := hfile
    rw [access, enter_of_file h rfl hne hway]
    exact .file before c (List.prefix_append _ _) hfile
  · have hnone : ∀ before, before <+: parent → ∀ c, t before ≠ some (.file c) := by
      intro before hbefore c hfile
      by_cases hnil : before = []
      · rw [hnil, h.root] at hfile
        cases hfile
      · exact hfree before hbefore hnil c hfile
    cases create with
    | true =>
      have henter := enter_create h h.root hnone
      rw [access, henter]
      exact .entry (withFolders t parent) rfl (if_pos List.prefix_rfl) hnone
    | false =>
      by_cases hfolder : t parent = some .folder
      · have hfound : t ([] ++ parent) = some .folder := hfolder
        rw [access, enter_found h hfound]
        exact .entry t rfl hfolder hnone
      · rw [access, enter_missing h.root hnone hfolder]
        exact .absent rfl hfolder hnone

/-- Making the folders of a path keeps a tree well formed. -/
lemma WellFormed.withFolders : WellFormed (withFolders t parent) := by
  constructor
  · exact if_pos List.nil_prefix
  · intro p n hp
    simp only [Folders.withFolders_apply] at hp ⊢
    by_cases hpre : p <+: parent
    · exact if_pos hpre
    · have hchild : ¬ p ++ [n] <+: parent := fun hlong =>
        hpre ((List.prefix_append p [n]).trans hlong)
      rw [if_neg hchild] at hp
      rw [if_neg hpre]
      exact h.above p n hp

/-- An action in a folder keeps a tree well formed. -/
lemma WellFormed.acted (hkeeps : act.Keeps) (hparent : t parent = some .folder) :
    WellFormed (Function.update t (parent ++ [name]) (act (t (parent ++ [name]))).2) := by
  constructor
  · rw [Function.update_of_ne (by simp)]
    exact h.root
  · intro p n hp
    by_cases hself : p = parent ++ [name]
    · have hchild : p ++ [n] ≠ parent ++ [name] := by
        rw [hself]
        intro heq
        simpa using congrArg List.length heq
      rw [Function.update_of_ne hchild] at hp
      have hfolder := h.above p n hp
      rw [hself] at hfolder ⊢
      rw [Function.update_self, hfolder]
      exact hkeeps.folder
    · rw [Function.update_of_ne hself]
      by_cases hchild : p ++ [n] = parent ++ [name]
      · obtain ⟨rfl, -⟩ := List.append_inj' hchild rfl
        exact hparent
      · rw [Function.update_of_ne hchild] at hp
        exact h.above p n hp

/-- **An access keeps a tree well formed.** -/
theorem WellFormed.access (hkeeps : act.Keeps) :
    WellFormed (access create act fail parent name t).2 := by
  have hends : Accesses create act fail parent name t
    (Folders.access create act fail parent name t) := accesses h
  generalize Folders.access create act fail parent name t = result at hends
  cases hends with
  | file before c | absent => exact h
  | entry t₁ hentered hfolder =>
    refine WellFormed.acted ?_ hkeeps hfolder
    rw [hentered]
    cases create with
    | true => exact h.withFolders
    | false => exact h

/-- What an access leaves at a path that is neither its entry nor on the way to it. -/
lemma access_of_ne {p : List N} (hp : ¬ p <+: parent) (hne : p ≠ parent ++ [name]) :
    (access create act fail parent name t).2 p = t p := by
  have hends : Accesses create act fail parent name t
    (access create act fail parent name t) := accesses h
  generalize access create act fail parent name t = result at hends
  cases hends with
  | file before c | absent => rfl
  | entry t₁ hentered =>
    dsimp only
    rw [Function.update_of_ne hne, hentered]
    cases create with
    | true => exact if_neg hp
    | false => rfl

/-- An access makes no file on the way to its entry. -/
lemma access_ne_file {p : List N} (hne : p ≠ parent ++ [name]) (hp : ∀ c, t p ≠ some (.file c))
    (c : β) : (access create act fail parent name t).2 p ≠ some (.file c) := by
  have hends : Accesses create act fail parent name t
    (access create act fail parent name t) := accesses h
  generalize access create act fail parent name t = result at hends
  cases hends with
  | file before c | absent => exact hp _
  | entry t₁ hentered =>
    dsimp only
    rw [Function.update_of_ne hne, hentered]
    cases create with
    | true =>
      simp only [if_true, withFolders_apply]
      split_ifs
      · simp
      · exact hp c
    | false => exact hp c

omit h

/-- **An access to an own path has one answer** in two trees that are alike, and leaves them
alike. -/
theorem access_alike (h : Alike own shared t t') (hapart : ∀ p, own p → ¬ shared p)
    (hreach : Reaches own shared create parent name) (hkeeps : act.Keeps) :
    (access create act fail parent name t).1 = (access create act fail parent name t').1 ∧
      Alike own shared (access create act fail parent name t).2
        (access create act fail parent name t').2 := by
  have hout : ∀ p, shared p → p ≠ parent ++ [name] := by
    rintro p hp rfl
    exact hapart _ hreach.entry hp
  -- a file on the way is an own one, so both trees have it
  have hfile : ∀ before c, before <+: parent →
      (t before = some (.file c) ↔ t' before = some (.file c)) := by
    intro before c hbefore
    rcases hreach.way before hbefore with hown | hshared
    · rw [h.same before hown]
    · have hfree := h.free before hshared c
      exact ⟨fun hc => absurd hc hfree.1, fun hc => absurd hc hfree.2⟩
  have hanswer : (access create act fail parent name t).1 =
        (access create act fail parent name t').1 ∧
      ∀ p, own p → (access create act fail parent name t).2 p =
        (access create act fail parent name t').2 p := by
    have hends : Accesses create act fail parent name t
      (access create act fail parent name t) := accesses h.left
    have hends' : Accesses create act fail parent name t'
      (access create act fail parent name t') := accesses h.right
    generalize access create act fail parent name t = result at hends
    generalize access create act fail parent name t' = result' at hends'
    cases hends with
    | file before c hway hfound =>
      cases hends' with
      | file => exact ⟨rfl, h.same⟩
      | absent _ _ hfree | entry _ _ _ hfree =>
        exact absurd ((hfile before c hway).mp hfound) (hfree before hway c)
    | absent hfinds hmissing hfree =>
      cases hends' with
      | file before c hway hfound =>
        exact absurd ((hfile before c hway).mpr hfound) (hfree before hway c)
      | absent => exact ⟨rfl, h.same⟩
      | entry t₁ hentered hfolder =>
        subst hfinds
        simp only [Bool.false_eq_true, if_false] at hentered
        rw [hentered, ← h.same _ (hreach.within rfl)] at hfolder
        exact absurd hfolder hmissing
    | entry t₁ hentered hfolder hfree =>
      cases hends' with
      | file before c hway hfound =>
        exact absurd ((hfile before c hway).mpr hfound) (hfree before hway c)
      | absent hfinds hmissing =>
        subst hfinds
        simp only [Bool.false_eq_true, if_false] at hentered
        rw [hentered, h.same _ (hreach.within rfl)] at hfolder
        exact absurd hfolder hmissing
      | entry t₁' hentered' =>
        have hsame : ∀ p, own p → t₁ p = t₁' p := by
          intro p hp
          rw [hentered, hentered']
          cases create with
          | true => simp only [if_true, withFolders, h.same p hp]
          | false => exact h.same p hp
        refine ⟨by rw [hsame _ hreach.entry], fun p hp => ?_⟩
        dsimp only
        by_cases hself : p = parent ++ [name]
        · rw [hself, Function.update_self, Function.update_self, hsame _ hreach.entry]
        · rw [Function.update_of_ne hself, Function.update_of_ne hself, hsame p hp]
  refine ⟨hanswer.1, h.left.access hkeeps, h.right.access hkeeps, hanswer.2, fun p hp c => ?_⟩
  exact ⟨access_ne_file h.left (hout p hp) (fun c => (h.free p hp c).1) c,
    access_ne_file h.right (hout p hp) (fun c => (h.free p hp c).2) c⟩

/-- **An access to somebody else's path** leaves a tree alike. -/
theorem access_apart {other : List N → Prop} (h : Alike own shared t t')
    (hown : ∀ p, own p → ¬ other p ∧ ¬ shared p) (hother : ∀ p, other p → ¬ shared p)
    (hreach : Reaches other shared create parent name) (hkeeps : act.Keeps) :
    Alike own shared (access create act fail parent name t).2 t' := by
  refine ⟨h.left.access hkeeps, h.right, fun p hp => ?_, fun p hp c => ⟨?_, (h.free p hp c).2⟩⟩
  · rw [← h.same p hp]
    refine access_of_ne h.left (fun hway => ?_) ?_
    · exact (hreach.way p hway).elim (hown p hp).1 (hown p hp).2
    · rintro rfl
      exact (hown _ hp).1 hreach.entry
  · refine access_ne_file h.left ?_ (fun c => (h.free p hp c).1) c
    rintro rfl
    exact hother _ hreach.entry hp

end Alike

end Folders
