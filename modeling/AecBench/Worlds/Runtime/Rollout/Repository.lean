import AecBench.Lib.Folders
import AecBench.Worlds.Runtime.Rollout.Control

/-!
# The paths of rollout groups

A repository keeps the files of every group in a folder under the name of the group, and the lock
of a group in a file whose name is that of the group with a suffix. The locks of the children of a
group are in a folder that has the name of the group again, next to that file. So the lock of one
group is where another group has its folder, when one name is the other with the suffix.

## Main definitions

* `SafeName` — a name that the repository accepts.
* `Repository`, `Operation`, `Repository.step` — the tree, the locks, and the operations.
* `paths` — the paths of a group and some children.
* `NamesApart` — neither name is the other with the suffix of a lock.

## Main results

* `groups_apart_iff` — when two groups have nothing to do with one another.
* `not_groups_apart_suffix` — a group and the group named like its lock.
-/

namespace AecBench.Worlds.Rollout

open Folders Text Validation

/-! ## Paths -/

/-- A name that passes `_safe_id`; it is one part of a path. -/
def SafeName : Type := {value : NonEmptyStr // SafeId value}

namespace SafeName

def text (name : SafeName) : String := name.val.val

instance : DecidableEq SafeName := inferInstanceAs (DecidableEq {value : NonEmptyStr // SafeId value})

lemma ext_text {g h : SafeName} (heq : g.text = h.text) : g = h := by
  obtain ⟨⟨g, hg⟩, hsafe⟩ := g
  obtain ⟨⟨h, hh⟩, hsafe'⟩ := h
  obtain rfl : g = h := heq
  rfl

end SafeName

section Paths

variable (group child : SafeName)

/-- `groups/{group}`. -/
def groupFolder : List String := ["groups", group.text]

/-- `groups/{group}/children/{child}`. -/
def childFolder : List String := ["groups", group.text, "children", child.text]

/-- `.locks/groups/{group}/children`. -/
def childLockFolder : List String := [".locks", "groups", group.text, "children"]

def groupLock : String := group.text ++ ".lock"

def childLock : String := child.text ++ ".lock"

/-- The paths of a group and of some children: requests, lineage, receipts, worlds and locks. -/
def paths (children : List SafeName) : List (List String) :=
  [groupFolder group ++ ["request.json"], groupFolder group ++ ["lineage.json"],
      [".locks", "groups"] ++ [groupLock group]] ++
    children.flatMap fun child =>
      [childFolder group child ++ ["request.json"], childFolder group child ++ ["receipt.json"],
        childFolder group child ++ ["world"], childLockFolder group ++ [childLock child]]

end Paths

/-! ## Operations -/

variable {β : Type}

/-- What an operation returns or raises. -/
inductive Answer (β : Type)
  | done
  | loaded (content : β)
  | found (present : Bool)
  | waits
  | raised (code : String)

/-- The tree of a repository, and the locks that are held. -/
structure Repository (β : Type) where
  tree : Tree String β
  held : List String → Bool

/-- A new repository. -/
def Repository.empty : Repository β where
  tree p := if p = [] then some .folder else none
  held _ := false

/-- The first content at a path stays there, and may be published again. -/
def publishAction [DecidableEq β] (content : β) (conflictCode : String) : EntryAction β (Answer β)
  | none => (.done, some (.file content))
  | some (.file stored) =>
    (if stored = content then .done else .raised conflictCode, some (.file stored))
  | some .folder => (.raised "artifact-confinement", some .folder)

def loadAction : EntryAction β (Answer β)
  | none => (.raised "artifact-integrity", none)
  | some (.file stored) => (.loaded stored, some (.file stored))
  | some .folder => (.raised "artifact-integrity", some .folder)

def existsAction : EntryAction β (Answer β)
  | none => (.found false, none)
  | some (.file stored) => (.found true, some (.file stored))
  | some .folder => (.raised "artifact-confinement", some .folder)

/-- `prepare_directory_destination`: the folder is made by the task. -/
def destinationAction : EntryAction β (Answer β)
  | none => (.done, none)
  | some (.file stored) => (.raised "artifact-confinement", some (.file stored))
  | some .folder => (.done, some .folder)

/-- The lock file is opened, or made with no content to speak of. -/
def lockAction (content : β) : EntryAction β (Answer β)
  | none => (.done, some (.file content))
  | some (.file stored) => (.done, some (.file stored))
  | some .folder => (.raised "artifact-confinement", some .folder)

/-- The task writes a file of a world. -/
def writeAction (content : β) : EntryAction β (Answer β)
  | none => (.done, some (.file content))
  | some (.file _) => (.done, some (.file content))
  | some .folder => (.raised "world", some .folder)

/-- One access to the tree of the repository. -/
structure Access (β : Type) where
  create : Bool
  act : EntryAction β (Answer β)
  fail : Folders.Fault → Answer β
  parent : List String
  name : String

def Access.run (a : Access β) (t : Tree String β) : Answer β × Tree String β :=
  access a.create a.act a.fail a.parent a.name t

/-- `_publish`. -/
def publishAt [DecidableEq β] (parent : List String) (name : String) (content : β)
    (conflictCode : String) : Access β where
  create := true
  act := publishAction content conflictCode
  fail _ := .raised "artifact-confinement"
  parent
  name

/-- `_load`. -/
def loadAt (parent : List String) (name : String) : Access β where
  create := false
  act := loadAction
  fail _ := .raised "artifact-integrity"
  parent
  name

/-- `_exists`: a missing folder on the way is no error. -/
def existsAt (parent : List String) (name : String) : Access β where
  create := false
  act := existsAction
  fail
    | .absent => .found false
    | .notFolder => .raised "artifact-confinement"
  parent
  name

/-- `exclusive_local_file_lock`, as far as the lock file. -/
def lockAt (content : β) (parent : List String) (name : String) : Access β where
  create := true
  act := lockAction content
  fail _ := .raised "artifact-confinement"
  parent
  name

/-- The operations on one group; `locked` and `materializing_child` are the acquisition of a lock
and its release, and the task writes and reads below the world of a child. -/
inductive Operation (β : Type)
  | lock (content : β)
  | unlock
  | lockChild (childId : NonEmptyStr) (content : β)
  | unlockChild (childId : NonEmptyStr)
  | publishGroupRequest (content : β)
  | loadGroupRequest
  | publishChildRequest (childId : NonEmptyStr) (content : β)
  | loadChildRequest (childId : NonEmptyStr)
  | childRequestExists (childId : NonEmptyStr)
  | publishChildReceipt (childId : NonEmptyStr) (content : β)
  | loadChildReceipt (childId : NonEmptyStr)
  | childReceiptExists (childId : NonEmptyStr)
  | publishLineage (content : β)
  | loadLineage
  | lineageExists
  | childWorldRoot (childId : NonEmptyStr)
  | writeWorld (childId : NonEmptyStr) (folder : List String) (name : String) (content : β)
  | readWorld (childId : NonEmptyStr) (folder : List String) (name : String)

/-- What an operation does once its names are safe. -/
inductive Effect (β : Type)
  | access (a : Access β)
  | acquire (a : Access β)
  | release (path : List String)

/-- Do something with a safe child name, or raise. -/
def withChild (childId : NonEmptyStr) (effect : SafeName → Effect β) : Option (Effect β) :=
  if h : SafeId childId then some (effect ⟨childId, h⟩) else none

/-- The effect of an operation on a group; there is none when a child name is not safe. -/
def Operation.effect [DecidableEq β] (group : SafeName) : Operation β → Option (Effect β)
  | .lock content => some (.acquire (lockAt content [".locks", "groups"] (groupLock group)))
  | .unlock => some (.release ([".locks", "groups"] ++ [groupLock group]))
  | .lockChild childId content => withChild childId fun child =>
    .acquire (lockAt content (childLockFolder group) (childLock child))
  | .unlockChild childId => withChild childId fun child =>
    .release (childLockFolder group ++ [childLock child])
  | .publishGroupRequest content =>
    some (.access (publishAt (groupFolder group) "request.json" content "request-conflict"))
  | .loadGroupRequest => some (.access (loadAt (groupFolder group) "request.json"))
  | .publishChildRequest childId content => withChild childId fun child =>
    .access (publishAt (childFolder group child) "request.json" content "child-request-conflict")
  | .loadChildRequest childId => withChild childId fun child =>
    .access (loadAt (childFolder group child) "request.json")
  | .childRequestExists childId => withChild childId fun child =>
    .access (existsAt (childFolder group child) "request.json")
  | .publishChildReceipt childId content => withChild childId fun child =>
    .access (publishAt (childFolder group child) "receipt.json" content "child-receipt-conflict")
  | .loadChildReceipt childId => withChild childId fun child =>
    .access (loadAt (childFolder group child) "receipt.json")
  | .childReceiptExists childId => withChild childId fun child =>
    .access (existsAt (childFolder group child) "receipt.json")
  | .publishLineage content =>
    some (.access (publishAt (groupFolder group) "lineage.json" content "lineage-conflict"))
  | .loadLineage => some (.access (loadAt (groupFolder group) "lineage.json"))
  | .lineageExists => some (.access (existsAt (groupFolder group) "lineage.json"))
  | .childWorldRoot childId => withChild childId fun child =>
    .access
      { create := true
        act := destinationAction
        fail := fun _ => .raised "artifact-confinement"
        parent := childFolder group child
        name := "world" }
  | .writeWorld childId folder name content => withChild childId fun child =>
    .access
      { create := true
        act := writeAction content
        fail := fun _ => .raised "world"
        parent := childFolder group child ++ "world" :: folder
        name }
  | .readWorld childId folder name => withChild childId fun child =>
    .access
      { create := false
        act := loadAction
        fail := fun _ => .raised "world"
        parent := childFolder group child ++ "world" :: folder
        name }

/-- An effect on a repository; a lock that is held lets a call wait. -/
def Effect.apply (repository : Repository β) : Effect β → Answer β × Repository β
  | .access a => ((a.run repository.tree).1, { repository with tree := (a.run repository.tree).2 })
  | .acquire a =>
    match a.run repository.tree with
    | (.done, tree) =>
      if repository.held (a.parent ++ [a.name]) then (.waits, { repository with tree })
      else (.done,
        { tree, held := Function.update repository.held (a.parent ++ [a.name]) true })
    | (answer, tree) => (answer, { repository with tree })
  | .release path => (.done, { repository with held := Function.update repository.held path false })

/-- One operation on a group. -/
def Repository.step [DecidableEq β] (repository : Repository β) (group : SafeName)
    (operation : Operation β) : Answer β × Repository β :=
  match operation.effect group with
  | none => (.raised "unsafe-identity", repository)
  | some effect => effect.apply repository

/-- Operations on groups one after the other, and what each of them gives. -/
def Repository.run [DecidableEq β] (repository : Repository β) :
    List (SafeName × Operation β) → List (SafeName × Answer β)
  | [] => []
  | (group, operation) :: rest =>
    (group, (repository.step group operation).1) ::
      (repository.step group operation).2.run rest

/-! ## Whose path it is -/

/-- Neither name is the other one with the suffix of a lock. -/
def NamesApart (g h : SafeName) : Prop := h.text ≠ g.text ++ ".lock" ∧ g.text ≠ h.text ++ ".lock"

/-- The folders of a group, and the file of its lock. -/
inductive Owns (g : SafeName) : List String → Prop
  | folder (rest : List String) : Owns g ("groups" :: g.text :: rest)
  | locks (rest : List String) : Owns g (".locks" :: "groups" :: g.text :: rest)
  | lock : Owns g [".locks", "groups", g.text ++ ".lock"]

/-- The folders that all groups are in. -/
def Shared (p : List String) : Prop :=
  p = [] ∨ p = ["groups"] ∨ p = [".locks"] ∨ p = [".locks", "groups"]

section Ownership

variable {g h child : SafeName} {p q : List String}

lemma Owns.not_shared (hp : Owns g p) : ¬ Shared p := by
  cases hp <;> simp [Shared]

lemma append_lock_injective {a b : String} (hab : a ++ ".lock" = b ++ ".lock") : a = b := by
  have hlist := congrArg String.toList hab
  rw [String.toList_append, String.toList_append] at hlist
  exact String.toList_injective (List.append_cancel_right hlist)

/-- **Groups with names apart own different paths**, and none of one is below one of the other. -/
lemma Owns.apart (hne : g ≠ h) (hapart : NamesApart g h) (hp : Owns g p) (hq : Owns h q) :
    ¬ p <+: q := by
  have htext : g.text ≠ h.text := fun heq => hne (SafeName.ext_text heq)
  cases hp <;> cases hq <;> intro hpre <;>
    simp only [List.cons_prefix_cons, String.reduceEq, false_and, true_and] at hpre
  · exact htext hpre.1
  · exact htext hpre.1
  · exact hapart.2 hpre.1
  · exact hapart.1 hpre.1.symm
  · exact htext (append_lock_injective hpre.1)

lemma Owns.not_owns (hne : g ≠ h) (hapart : NamesApart g h) (hp : Owns g p) : ¬ Owns h p :=
  fun hq => hp.apart hne hapart hq List.prefix_rfl

lemma owns_of_mem_paths {children : List SafeName} (hp : p ∈ paths g children) : Owns g p := by
  simp only [paths, List.mem_append, List.mem_cons, List.not_mem_nil, or_false,
    List.mem_flatMap] at hp
  rcases hp with (rfl | rfl | rfl) | ⟨child, -, rfl | rfl | rfl | rfl⟩
  · exact .folder _
  · exact .folder _
  · exact .lock
  · exact .folder _
  · exact .folder _
  · exact .folder _
  · exact .locks _

lemma way_folder {rest : List String} (hp : p <+: "groups" :: g.text :: rest) :
    Owns g p ∨ Shared p := by
  match p with
  | [] => exact .inr (.inl rfl)
  | [a] =>
    obtain ⟨rfl, -⟩ := List.cons_prefix_cons.mp hp
    exact .inr (.inr (.inl rfl))
  | a :: b :: p =>
    simp only [List.cons_prefix_cons] at hp
    obtain ⟨rfl, rfl, -⟩ := hp
    exact .inl (.folder p)

lemma way_locks {rest : List String} (hp : p <+: ".locks" :: "groups" :: g.text :: rest) :
    Owns g p ∨ Shared p := by
  match p with
  | [] => exact .inr (.inl rfl)
  | [a] =>
    obtain ⟨rfl, -⟩ := List.cons_prefix_cons.mp hp
    exact .inr (.inr (.inr (.inl rfl)))
  | [a, b] =>
    simp only [List.cons_prefix_cons] at hp
    obtain ⟨rfl, rfl, -⟩ := hp
    exact .inr (.inr (.inr (.inr rfl)))
  | a :: b :: c :: p =>
    simp only [List.cons_prefix_cons] at hp
    obtain ⟨rfl, rfl, rfl, -⟩ := hp
    exact .inl (.locks p)

lemma way_lock (hp : p <+: [".locks", "groups"]) : Shared p := by
  match p with
  | [] => exact .inl rfl
  | [a] =>
    obtain ⟨rfl, -⟩ := List.cons_prefix_cons.mp hp
    exact .inr (.inr (.inl rfl))
  | [a, b] =>
    simp only [List.cons_prefix_cons] at hp
    obtain ⟨rfl, rfl, -⟩ := hp
    exact .inr (.inr (.inr rfl))
  | a :: b :: c :: p =>
    have hlength := hp.length_le
    simp at hlength

end Ownership

/-! ## What an operation touches -/

/-- An access on behalf of a group: it reaches an own path, and keeps folders and files. -/
structure Access.Of (a : Access β) (g : SafeName) : Prop where
  reaches : Reaches (Owns g) Shared a.create a.parent a.name
  keeps : a.act.Keeps

/-- An effect on behalf of a group. -/
def Effect.Of (g : SafeName) : Effect β → Prop
  | .access a | .acquire a => a.Of g
  | .release path => Owns g path

section Effects

variable [DecidableEq β] {g child : SafeName}

lemma publishAction_keeps (content : β) (code : String) : (publishAction content code).Keeps :=
  ⟨rfl, fun c => ⟨c, rfl⟩, .inr ⟨content, rfl⟩⟩

omit [DecidableEq β] in
lemma loadAction_keeps : (loadAction : EntryAction β (Answer β)).Keeps :=
  ⟨rfl, fun c => ⟨c, rfl⟩, .inl rfl⟩

omit [DecidableEq β] in
lemma existsAction_keeps : (existsAction : EntryAction β (Answer β)).Keeps :=
  ⟨rfl, fun c => ⟨c, rfl⟩, .inl rfl⟩

omit [DecidableEq β] in
lemma destinationAction_keeps : (destinationAction : EntryAction β (Answer β)).Keeps :=
  ⟨rfl, fun c => ⟨c, rfl⟩, .inl rfl⟩

omit [DecidableEq β] in
lemma lockAction_keeps (content : β) : (lockAction content).Keeps :=
  ⟨rfl, fun c => ⟨c, rfl⟩, .inr ⟨content, rfl⟩⟩

omit [DecidableEq β] in
lemma writeAction_keeps (content : β) : (writeAction content).Keeps :=
  ⟨rfl, fun _ => ⟨content, rfl⟩, .inr ⟨content, rfl⟩⟩

lemma reaches_folder {create : Bool} (rest : List String) (name : String) :
    Reaches (Owns g) Shared create ("groups" :: g.text :: rest) name where
  way _ hp := way_folder hp
  entry := .folder (rest ++ [name])
  within _ := .folder rest

lemma reaches_childLock :
    Reaches (Owns g) Shared true (childLockFolder g) (childLock child) where
  way _ hp := way_locks hp
  entry := .locks _
  within hcreate := by cases hcreate

lemma reaches_lock : Reaches (Owns g) Shared true [".locks", "groups"] (groupLock g) where
  way _ hp := .inr (way_lock hp)
  entry := .lock
  within hcreate := by cases hcreate

omit [DecidableEq β] in
lemma of_withChild {childId : NonEmptyStr} {make : SafeName → Effect β} {effect : Effect β}
    (h : withChild childId make = some effect) (hmake : ∀ child, (make child).Of g) :
    effect.Of g := by
  unfold withChild at h
  split_ifs at h
  obtain rfl := Option.some.inj h
  exact hmake _

/-- **An operation on a group touches what the group owns.** -/
theorem Operation.effect_of {operation : Operation β} {effect : Effect β}
    (h : operation.effect g = some effect) : effect.Of g := by
  cases operation <;> simp only [Operation.effect, Option.some.injEq] at h
  case lock content =>
    subst h
    exact ⟨reaches_lock, lockAction_keeps content⟩
  case unlock =>
    subst h
    exact Owns.lock
  case publishGroupRequest content | publishLineage content =>
    subst h
    exact ⟨reaches_folder _ _, publishAction_keeps content _⟩
  case loadGroupRequest | loadLineage =>
    subst h
    exact ⟨reaches_folder _ _, loadAction_keeps⟩
  case lineageExists =>
    subst h
    exact ⟨reaches_folder _ _, existsAction_keeps⟩
  case lockChild childId content =>
    exact of_withChild h fun child => ⟨reaches_childLock, lockAction_keeps content⟩
  case unlockChild childId => exact of_withChild h fun child => Owns.locks _
  case publishChildRequest childId content | publishChildReceipt childId content =>
    exact of_withChild h fun child => ⟨reaches_folder _ _, publishAction_keeps content _⟩
  case loadChildRequest childId | loadChildReceipt childId =>
    exact of_withChild h fun child => ⟨reaches_folder _ _, loadAction_keeps⟩
  case childRequestExists childId | childReceiptExists childId =>
    exact of_withChild h fun child => ⟨reaches_folder _ _, existsAction_keeps⟩
  case childWorldRoot childId =>
    exact of_withChild h fun child => ⟨reaches_folder _ _, destinationAction_keeps⟩
  case writeWorld childId folder name content =>
    exact of_withChild h fun child => ⟨reaches_folder _ _, writeAction_keeps content⟩
  case readWorld childId folder name =>
    exact of_withChild h fun child => ⟨reaches_folder _ _, loadAction_keeps⟩

end Effects

/-! ## Two groups -/

section Groups

variable [DecidableEq β] {g h : SafeName} {repository repository' : Repository β}

/-- Two repositories that a group cannot tell apart. -/
structure Same (g : SafeName) (repository repository' : Repository β) : Prop where
  tree : Alike (Owns g) Shared repository.tree repository'.tree
  held : ∀ p, Owns g p → repository.held p = repository'.held p

omit [DecidableEq β] in
lemma Access.run_alike {a : Access β} {t t' : Tree String β} (h : Alike (Owns g) Shared t t')
    (ha : a.Of g) :
    (a.run t).1 = (a.run t').1 ∧ Alike (Owns g) Shared (a.run t).2 (a.run t').2 :=
  access_alike h (fun _ hp => hp.not_shared) ha.reaches ha.keeps

omit [DecidableEq β] in
lemma Access.run_apart {a : Access β} {t t' : Tree String β} (hne : g ≠ h) (hapart : NamesApart g h)
    (hsame : Alike (Owns g) Shared t t') (ha : a.Of h) : Alike (Owns g) Shared (a.run t).2 t' :=
  access_apart hsame (fun _ hp => ⟨hp.not_owns hne hapart, hp.not_shared⟩)
    (fun _ hp => hp.not_shared) ha.reaches ha.keeps

omit [DecidableEq β] in
lemma apply_same (hsame : Same g repository repository') {effect : Effect β} (heffect : effect.Of g) :
    (effect.apply repository).1 = (effect.apply repository').1 ∧
      Same g (effect.apply repository).2 (effect.apply repository').2 := by
  cases effect with
  | access a =>
    obtain ⟨hanswer, halike⟩ := Access.run_alike hsame.tree heffect
    exact ⟨hanswer, halike, hsame.held⟩
  | acquire a =>
    obtain ⟨hanswer, halike⟩ := Access.run_alike hsame.tree heffect
    have hheld := hsame.held _ heffect.reaches.entry
    simp only [Effect.apply]
    generalize a.run repository.tree = result at hanswer halike
    generalize a.run repository'.tree = result' at hanswer halike
    obtain ⟨answer, tree⟩ := result
    obtain ⟨answer', tree'⟩ := result'
    obtain rfl : answer = answer' := hanswer
    cases answer with
    | done =>
      simp only [hheld]
      split_ifs
      · exact ⟨rfl, halike, hsame.held⟩
      · refine ⟨rfl, halike, fun p hp => ?_⟩
        simp only [Function.update_apply, hsame.held p hp]
    | loaded content | found present | waits | raised code => exact ⟨rfl, halike, hsame.held⟩
  | release path =>
    refine ⟨rfl, hsame.tree, fun p hp => ?_⟩
    simp only [Effect.apply, Function.update_apply, hsame.held p hp]

omit [DecidableEq β] in
lemma apply_other (hne : g ≠ h) (hapart : NamesApart g h) (hsame : Same g repository repository')
    {effect : Effect β} (heffect : effect.Of h) : Same g (effect.apply repository).2 repository' := by
  have hheld : ∀ path, Owns h path → ∀ b p, Owns g p →
      Function.update repository.held path b p = repository'.held p := by
    intro path hpath b p hp
    rw [Function.update_of_ne, hsame.held p hp]
    rintro rfl
    exact hp.not_owns hne hapart hpath
  cases effect with
  | access a => exact ⟨Access.run_apart hne hapart hsame.tree heffect, hsame.held⟩
  | acquire a =>
    have halike := Access.run_apart hne hapart hsame.tree heffect
    simp only [Effect.apply]
    generalize a.run repository.tree = result at halike
    obtain ⟨answer, tree⟩ := result
    cases answer with
    | done =>
      split_ifs
      · exact ⟨halike, hsame.held⟩
      · exact ⟨halike, hheld _ heffect.reaches.entry true⟩
    | loaded content | found present | waits | raised code => exact ⟨halike, hsame.held⟩
  | release path => exact ⟨hsame.tree, hheld path heffect false⟩

/-- **An operation on a group** gives the same in repositories that the group cannot tell apart. -/
lemma step_same (hsame : Same g repository repository') (operation : Operation β) :
    (repository.step g operation).1 = (repository'.step g operation).1 ∧
      Same g (repository.step g operation).2 (repository'.step g operation).2 := by
  simp only [Repository.step]
  cases heffect : operation.effect g with
  | none => exact ⟨rfl, hsame⟩
  | some effect => exact apply_same hsame (Operation.effect_of heffect)

lemma step_other (hne : g ≠ h) (hapart : NamesApart g h) (hsame : Same g repository repository')
    (operation : Operation β) : Same g (repository.step h operation).2 repository' := by
  simp only [Repository.step]
  cases heffect : operation.effect h with
  | none => exact hsame
  | some effect => exact apply_other hne hapart hsame (Operation.effect_of heffect)

/-- **The operations on one group** give the same with those on the other group among them as
without. -/
lemma run_same (hne : g ≠ h) (hapart : NamesApart g h) (hsame : Same g repository repository')
    {operations : List (SafeName × Operation β)} (hall : ∀ o ∈ operations, o.1 = g ∨ o.1 = h) :
    (repository.run operations).filter (·.1 = g) =
      repository'.run (operations.filter (·.1 = g)) := by
  induction operations generalizing repository repository' with
  | nil => rfl
  | cons o rest ih =>
    have hrest := fun o ho => hall o (List.mem_cons_of_mem _ ho)
    obtain ⟨k, operation⟩ := o
    rcases hall _ List.mem_cons_self with rfl | rfl
    · obtain ⟨hanswer, hnext⟩ := step_same hsame operation
      rw [Repository.run, List.filter_cons_of_pos (by simp), List.filter_cons_of_pos (by simp),
        Repository.run, hanswer, ih hnext hrest]
    · have hother : ¬ k = g := fun heq => hne heq.symm
      rw [Repository.run, List.filter_cons_of_neg (by simpa using hother),
        List.filter_cons_of_neg (by simpa using hother)]
      exact ih (step_other hne hapart hsame operation) hrest

omit [DecidableEq β] in
lemma wellFormed_empty : WellFormed (Repository.empty : Repository β).tree := by
  constructor
  · rfl
  · intro p n hp
    simp [Repository.empty] at hp

omit [DecidableEq β] in
lemma same_empty : Same g (Repository.empty : Repository β) Repository.empty where
  tree :=
    { left := wellFormed_empty
      right := wellFormed_empty
      same := fun _ _ => rfl
      free := fun p _ c => by
        simp only [Repository.empty]
        split_ifs <;> simp }
  held _ _ := rfl

end Groups

/-! ## When two groups have nothing to do with one another -/

/-- No path of one group is a path of the other one or above one. -/
def PathsApart (g h : SafeName) : Prop :=
  ∀ children children' : List SafeName, ∀ p ∈ paths g children, ∀ q ∈ paths h children',
    ¬ p <+: q ∧ ¬ q <+: p

/-- The bytes of a file. -/
abbrev Bytes : Type := List UInt8

/-- Any operations on the two groups: those on one group give what they give without the others. -/
def OutcomesApart (g h : SafeName) : Prop :=
  ∀ operations : List (SafeName × Operation Bytes), (∀ o ∈ operations, o.1 = g ∨ o.1 = h) →
    (Repository.empty.run operations).filter (·.1 = g) =
      Repository.empty.run (operations.filter (·.1 = g))

section Suffix

variable {g h : SafeName}

lemma not_outcomesApart_of_folder (hne : g ≠ h) (hname : h.text = g.text ++ ".lock") :
    ¬ OutcomesApart g h := by
  intro hapart
  have hfirst := hapart [(h, .lockChild g.val []), (g, .lock [])] (by simp)
  have hsafe : SafeId g.val := g.2
  simp [Repository.run, Repository.step, Operation.effect, withChild, Effect.apply, Access.run,
    access, enter, lockAt, lockAction, childLockFolder, childLock, groupLock, Repository.empty,
    hname, Ne.symm hne, hsafe] at hfirst

lemma not_outcomesApart_of_file (hne : g ≠ h) (hname : g.text = h.text ++ ".lock") :
    ¬ OutcomesApart g h := by
  intro hapart
  have hfirst := hapart [(h, .lock []), (g, .lockChild g.val [])] (by simp)
  have hsafe : SafeId g.val := g.2
  simp [Repository.run, Repository.step, Operation.effect, withChild, Effect.apply, Access.run,
    access, enter, lockAt, lockAction, childLockFolder, childLock, groupLock, Repository.empty,
    hname, Ne.symm hne, hsafe] at hfirst

lemma not_pathsApart_of_folder (hname : h.text = g.text ++ ".lock") :
    ¬ PathsApart g h ∧ ¬ PathsApart h g := by
  have hlock : [".locks", "groups"] ++ [groupLock g] ∈ paths g [] := by simp [paths]
  have hchild : childLockFolder h ++ [childLock g] ∈ paths h [g] := by simp [paths]
  have hpre : [".locks", "groups"] ++ [groupLock g] <+: childLockFolder h ++ [childLock g] := by
    rw [childLockFolder, hname]
    exact List.prefix_append [".locks", "groups", groupLock g] ["children", childLock g]
  exact ⟨fun hapart => (hapart _ _ _ hlock _ hchild).1 hpre,
    fun hapart => (hapart _ _ _ hchild _ hlock).2 hpre⟩

/-- **When two groups have nothing to do with one another**: their paths are apart, and so are the
outcomes of all their operations in any order, when and only when neither name is the other one
with the suffix `.lock`. -/
theorem groups_apart_iff (hne : g ≠ h) :
    (PathsApart g h ↔ NamesApart g h) ∧ (OutcomesApart g h ↔ NamesApart g h) := by
  refine ⟨⟨fun hpaths => ⟨fun hname => ?_, fun hname => ?_⟩, fun hapart => ?_⟩,
    ⟨fun houtcomes => ⟨fun hname => ?_, fun hname => ?_⟩, fun hapart => ?_⟩⟩
  · exact (not_pathsApart_of_folder hname).1 hpaths
  · exact (not_pathsApart_of_folder hname).2 hpaths
  · intro children children' p hp q hq
    have hg := owns_of_mem_paths hp
    have hh := owns_of_mem_paths hq
    exact ⟨hg.apart hne hapart hh, hh.apart hne.symm ⟨hapart.2, hapart.1⟩ hg⟩
  · exact not_outcomesApart_of_folder hne hname houtcomes
  · exact not_outcomesApart_of_file hne hname houtcomes
  · intro operations hall
    exact run_same hne hapart same_empty hall

end Suffix

/-! ## A group that is named like a lock -/

def groupA : SafeName := ⟨⟨"a", by decide⟩, by decide⟩

def groupB : SafeName := ⟨⟨"b", by decide⟩, by decide⟩

/-- The name of the lock of `a`. -/
def groupALock : SafeName := ⟨⟨"a.lock", by decide⟩, by decide⟩

/-- Two groups that have nothing to do with one another. -/
theorem groups_apart_a_b :
    groupA ≠ groupB ∧ ((PathsApart groupA groupB ↔ NamesApart groupA groupB) ∧
      (OutcomesApart groupA groupB ↔ NamesApart groupA groupB)) :=
  ⟨by decide, groups_apart_iff (by decide)⟩

/-- **A group and the group named like its lock**: once a child of the one is locked, the lock file
of the other is a folder. -/
theorem not_groups_apart_suffix :
    groupA ≠ groupALock ∧ ¬ PathsApart groupA groupALock ∧ ¬ OutcomesApart groupA groupALock := by
  have hne : groupA ≠ groupALock := by decide
  have hname : groupALock.text = groupA.text ++ ".lock" := by decide
  exact ⟨hne, (not_pathsApart_of_folder hname).1, not_outcomesApart_of_folder hne hname⟩

end AecBench.Worlds.Rollout
