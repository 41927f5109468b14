import AecBench.Adapters.LambdaRlm.Planner

/-!
# Chunks of a source

A source that does not fit the context window is split into the planned number of chunks. The
splitter is greedy: it closes a chunk before the word with which it would pass the target size,
and the last chunk takes all that is left.

## Main definitions

* `splitText`, `leafExtractions` — the splitter, and the texts the executor extracts from.
* `Chunked` — the chunks lose nothing, are as few as planned, and fit the window.
* `Divides` — some division into so many chunks keeps all but the last within the target.

## Main results

* `greedy_fits_iff` — the greedy splitter fits the window if any division does.
* `chunked_iff` — when the chunks of a source fit the window.
-/

namespace AecBench.LambdaRlm

/-! ### The splitter -/

/-- The loop of `split_text`. -/
def splitLoop (targetSize : ℚ) (kStar : ℕ) :
    List String → List String → List String → ℕ → List String
  | [], chunks, currentWords, _ =>
    if currentWords = [] then chunks else chunks ++ [" ".intercalate currentWords]
  | word :: words, chunks, currentWords, currentLen =>
    let wordLen := word.length + if currentWords = [] then 0 else 1
    if targetSize < (currentLen + wordLen : ℕ) ∧ currentWords ≠ [] ∧ chunks.length < kStar - 1 then
      splitLoop targetSize kStar words (chunks ++ [" ".intercalate currentWords]) [word] word.length
    else splitLoop targetSize kStar words chunks (currentWords ++ [word]) (currentLen + wordLen)

/-- `split_text`. -/
def splitText (text : String) (kStar tauStar : ℕ) : List String :=
  if text.length ≤ tauStar ∨ kStar ≤ 1 then [text]
  else if Text.words text = [] then [text]
  else splitLoop (text.length / kStar) kStar (Text.words text) [] [] 0

/-- The texts `_extract_source` extracts from, one leaf extraction each. -/
noncomputable def leafExtractions (docs : SourceDocs) (config : PlannerConfig) (label : String) :
    List String :=
  let text := resolveSource docs label
  match leafOps docs config label with
  | [] => []
  | op :: ops =>
    if ops.isEmpty ∧ op.totalChunks = 1 then [text]
    else splitText text op.totalChunks config.contextWindowChars

/-- The chunks of a text lose no word, are at most as many as planned, and fit the window when
every word does. -/
structure Chunked (config : PlannerConfig) (text : String) : Prop where
  words : (splitText text (totalChunks config text) config.contextWindowChars).flatMap Text.words =
    Text.words text
  count : (splitText text (totalChunks config text) config.contextWindowChars).length ≤
    totalChunks config text
  sizes : (∀ word ∈ Text.words text, word.length ≤ config.contextWindowChars) →
    ∀ chunk ∈ splitText text (totalChunks config text) config.contextWindowChars,
      chunk.length ≤ config.contextWindowChars
  calls : ∀ docs label, resolveSource docs label = text →
    (leafExtractions docs config label).length ≤ (leafOps docs config label).length

/-! ### Sizes -/

/-- The length of words that are joined by a space. -/
def joinedLength (words : List String) : ℕ := (" ".intercalate words).length

lemma joinedLength_singleton (word : String) : joinedLength [word] = word.length := by
  rw [joinedLength, String.intercalate_singleton]

variable {words : List String}

lemma joinedLength_cons (h : words ≠ []) (word : String) :
    joinedLength (word :: words) = word.length + 1 + joinedLength words := by
  obtain ⟨next, rest, rfl⟩ := List.exists_cons_of_ne_nil h
  rw [joinedLength, String.intercalate_cons_cons, String.length_append, String.length_append]
  rfl

lemma joinedLength_snoc (h : words ≠ []) (word : String) :
    joinedLength (words ++ [word]) = joinedLength words + (word.length + 1) := by
  induction words with
  | nil => exact absurd rfl h
  | cons first rest ih =>
    cases rest with
    | nil =>
      rw [List.singleton_append, joinedLength_cons (List.cons_ne_nil _ _), joinedLength_singleton,
        joinedLength_singleton]
      omega
    | cons next rest =>
      rw [List.cons_append, joinedLength_cons (by simp), ih (List.cons_ne_nil _ _),
        joinedLength_cons (List.cons_ne_nil _ _)]
      omega

lemma joinedLength_mono {part : List String} (h : part.Sublist words) :
    joinedLength part ≤ joinedLength words := by
  induction h with
  | slnil => exact le_rfl
  | @cons part words word hsub ih =>
    cases words with
    | nil => rw [List.sublist_nil.mp hsub]; exact Nat.zero_le _
    | cons => rw [joinedLength_cons (List.cons_ne_nil _ _)]; omega
  | @cons_cons part words word hsub ih =>
    cases words with
    | nil => rw [List.sublist_nil.mp hsub]
    | cons =>
      rw [joinedLength_cons (List.cons_ne_nil _ _) word]
      cases part with
      | nil => rw [joinedLength_singleton]; omega
      | cons => rw [joinedLength_cons (List.cons_ne_nil _ _)]; omega

/-! ### Divisions -/

section Divisions

variable {target : ℚ} {window : ℕ}

/-- The words of a chunk that is closed: within the target, or a single word. -/
def Narrow (target : ℚ) (part : List String) : Prop :=
  (joinedLength part : ℚ) ≤ target ∨ part.length ≤ 1

/-- There is a division of the words into so many closed chunks at most and a last chunk that
fits the window. -/
inductive Divides (target : ℚ) (window : ℕ) : ℕ → List String → Prop
  | last {n : ℕ} {part : List String} (h : joinedLength part ≤ window) : Divides target window n part
  | next {n : ℕ} {part rest : List String} (hpart : Narrow target part)
      (hrest : Divides target window n rest) : Divides target window (n + 1) (part ++ rest)

lemma Narrow.mono {part : List String} (h : Narrow target words) (hsub : part.Sublist words) :
    Narrow target part :=
  h.imp (le_trans (by exact_mod_cast joinedLength_mono hsub)) hsub.length_le.trans

variable {n : ℕ}

lemma Divides.succ (h : Divides target window n words) : Divides target window (n + 1) words :=
  @Divides.next target window n [] words (.inr (Nat.zero_le 1)) h

lemma Divides.suffix {before all : List String} (h : Divides target window n all)
    (hall : all = before ++ words) : Divides target window n words := by
  induction h generalizing before with
  | last hlast =>
    subst hall
    exact .last ((joinedLength_mono (List.sublist_append_right _ _)).trans hlast)
  | next hpart hrest ih =>
    rcases List.append_eq_append_iff.mp hall with ⟨cut, rfl, hcut⟩ | ⟨cut, rfl, rfl⟩
    · exact (ih hcut).succ
    · exact .next (hpart.mono (List.sublist_append_right _ _)) hrest

variable {current : List String}

lemma Divides.close {word : String} (h : Divides target window (n + 1) (current ++ word :: words))
    (hne : current ≠ []) (hover : target < joinedLength (current ++ [word])) :
    Divides target window n (word :: words) := by
  generalize hall : current ++ word :: words = all at h
  cases h with
  | last hlast =>
    subst hall
    exact .last ((joinedLength_mono (List.sublist_append_right _ _)).trans hlast)
  | next hpart hrest =>
    rcases List.append_eq_append_iff.mp hall with ⟨cut, rfl, hcut⟩ | ⟨cut, rfl, hcut⟩
    · cases cut with
      | nil => exact hcut ▸ hrest
      | cons first cut =>
        -- the chunk would contain the word
        obtain ⟨rfl, -⟩ := List.cons.inj hcut
        have hsub : (current ++ [word]).Sublist (current ++ word :: cut) := by simp
        rcases hpart.mono hsub with hwidth | hshort
        · exact absurd hover (not_lt.mpr hwidth)
        · exact absurd (by simpa using hshort) hne
    · exact hrest.suffix hcut

/-! ### The greedy division -/

/-- The words of the chunks that the splitter makes, when `n` more chunks may be closed. -/
def greedy (target : ℚ) : ℕ → List String → List String → List (List String)
  | _, current, [] => [current]
  | n, current, word :: words =>
    if target < joinedLength (current ++ [word]) ∧ n ≠ 0 then
      current :: greedy target (n - 1) [word] words
    else greedy target n (current ++ [word]) words

lemma splitLoop_eq {kStar : ℕ} {chunks : List String} (hne : current ≠ [])
    (hn : chunks.length + n + 1 = kStar) :
    splitLoop target kStar words chunks current (joinedLength current) =
      chunks ++ (greedy target n current words).map (" ".intercalate ·) := by
  induction words generalizing n chunks current with
  | nil => simp [splitLoop, greedy, hne]
  | cons word words ih =>
    rw [splitLoop, greedy]
    simp only [if_neg hne, ← joinedLength_snoc hne]
    have hlimit : chunks.length < kStar - 1 ↔ n ≠ 0 := by omega
    simp only [hlimit, ne_eq, hne, not_false_iff, true_and]
    split_ifs with hclose
    · have hrest := @ih (n - 1) [word] (chunks ++ [" ".intercalate current]) (by simp)
        (by rw [List.length_append, List.length_singleton]; omega)
      rw [joinedLength_singleton] at hrest
      rw [hrest]
      simp
    · exact ih (by simp) hn

lemma greedy_flatten (n : ℕ) (current words : List String) :
    (greedy target n current words).flatten = current ++ words := by
  fun_induction greedy target n current words <;> simp_all

lemma length_greedy_le (n : ℕ) (current words : List String) :
    (greedy target n current words).length ≤ n + 1 := by
  fun_induction greedy target n current words with
  | case1 n current => simp
  | case2 n current word words h ih =>
    rw [List.length_cons]
    omega
  | case3 n current word words _ ih => exact ih

lemma divides_of_greedy (hclosed : n ≠ 0 → Narrow target current)
    (h : ∀ chunk ∈ greedy target n current words, joinedLength chunk ≤ window) :
    Divides target window n (current ++ words) := by
  induction words generalizing n current with
  | nil =>
    rw [List.append_nil]
    exact .last (h current (by simp [greedy]))
  | cons word words ih =>
    rw [greedy] at h
    split_ifs at h with hclose
    · obtain ⟨n, rfl⟩ := Nat.exists_eq_succ_of_ne_zero hclose.2
      exact .next (hclosed hclose.2) (ih (fun _ => .inr le_rfl) (List.forall_mem_cons.mp h).2)
    · have hopen : n ≠ 0 → Narrow target (current ++ [word]) :=
        fun hn => .inl (not_lt.mp fun hover => hclose ⟨hover, hn⟩)
      simpa using ih hopen h

lemma Divides.greedy (htarget : target ≤ window) (hwords : ∀ word ∈ words, word.length ≤ window)
    (hne : current ≠ []) (hclosed : n ≠ 0 → joinedLength current ≤ window)
    (h : Divides target window n (current ++ words)) :
    ∀ chunk ∈ LambdaRlm.greedy target n current words, joinedLength chunk ≤ window := by
  induction words generalizing n current with
  | nil =>
    rw [LambdaRlm.greedy, List.forall_mem_singleton]
    rcases Nat.eq_zero_or_pos n with rfl | hn
    · rw [List.append_nil] at h
      cases h with
      | last hlast => exact hlast
    · exact hclosed hn.ne'
  | cons word words ih =>
    obtain ⟨hword, hwords⟩ := List.forall_mem_cons.mp hwords
    rw [LambdaRlm.greedy]
    split_ifs with hclose
    · obtain ⟨n, rfl⟩ := Nat.exists_eq_succ_of_ne_zero hclose.2
      refine List.forall_mem_cons.mpr ⟨hclosed hclose.2, ?_⟩
      refine ih hwords (List.cons_ne_nil _ _) (fun _ => ?_) (h.close hne hclose.1)
      rwa [joinedLength_singleton]
    · refine ih hwords (by simp) (fun hn => ?_) (by simpa using h)
      have hwidth := not_lt.mp fun hover => hclose ⟨hover, hn⟩
      exact_mod_cast hwidth.trans htarget

/-- **The greedy splitter fits the window if and only if any division does.** -/
theorem greedy_fits_iff (htarget : target ≤ window) {word : String}
    (hwords : ∀ w ∈ word :: words, w.length ≤ window) :
    (∀ chunk ∈ greedy target n [word] words, joinedLength chunk ≤ window) ↔
      Divides target window n (word :: words) := by
  obtain ⟨hword, hwords⟩ := List.forall_mem_cons.mp hwords
  refine ⟨divides_of_greedy fun _ => .inr le_rfl, fun h => ?_⟩
  exact h.greedy htarget hwords (List.cons_ne_nil _ _) fun _ => by rwa [joinedLength_singleton]

end Divisions

/-! ### The chunks of a source -/

section Source

variable {config : PlannerConfig} {text : String}

/-- The average size of the planned chunks. -/
noncomputable def targetSize (config : PlannerConfig) (text : String) : ℚ :=
  text.length / totalChunks config text

variable (h : config.contextWindowChars < text.length)
include h

lemma targetSize_le : targetSize config text ≤ config.contextWindowChars := by
  obtain ⟨htwo, hcover⟩ := length_le_totalChunks_mul h
  have hpos : (0 : ℚ) < totalChunks config text := by exact_mod_cast Nat.lt_of_lt_of_le two_pos htwo
  rw [targetSize, div_le_iff₀ hpos, mul_comm]
  exact_mod_cast hcover

lemma splitText_eq {word : String} (hwords : Text.words text = word :: words) :
    splitText text (totalChunks config text) config.contextWindowChars =
      (greedy (targetSize config text) (totalChunks config text - 1) [word] words).map
        (" ".intercalate ·) := by
  have htwo := (length_le_totalChunks_mul h).1
  have hlong : ¬ (text.length ≤ config.contextWindowChars ∨ totalChunks config text ≤ 1) := by omega
  rw [splitText, if_neg hlong, if_neg (hwords ▸ List.cons_ne_nil _ _), hwords, splitLoop,
    if_neg (by simp)]
  have hloop := @splitLoop_eq words (targetSize config text) (totalChunks config text - 1) [word]
    (totalChunks config text) [] (List.cons_ne_nil _ _) (by rw [List.length_nil]; omega)
  rw [joinedLength_singleton, List.nil_append] at hloop
  simpa [targetSize] using hloop

lemma splitText_words :
    (splitText text (totalChunks config text) config.contextWindowChars).flatMap Text.words =
        Text.words text ∧
      (splitText text (totalChunks config text) config.contextWindowChars).length ≤
        totalChunks config text := by
  have htwo := (length_le_totalChunks_mul h).1
  cases hwords : Text.words text with
  | nil =>
    have hlong : ¬ (text.length ≤ config.contextWindowChars ∨ totalChunks config text ≤ 1) := by
      omega
    rw [splitText, if_neg hlong, if_pos hwords]
    refine ⟨?_, Nat.le_of_succ_le htwo⟩
    rw [List.flatMap_singleton, hwords]
  | cons word words =>
    have hflatten := @greedy_flatten (targetSize config text) (totalChunks config text - 1) [word]
      words
    rw [splitText_eq h hwords]
    constructor
    · rw [List.flatMap_map, List.flatMap_def, List.map_congr_left, List.map_id, hflatten]
      · rfl
      · intro part hpart
        refine Text.words_intercalate fun w hw => @Text.word_of_mem_words text w ?_
        rw [hwords, ← List.singleton_append, ← hflatten]
        exact List.mem_flatten_of_mem hpart hw
    · rw [List.length_map]
      have := @length_greedy_le (targetSize config text) (totalChunks config text - 1) [word] words
      omega

omit h

lemma leafExtractions_eq {docs : SourceDocs} {label : String}
    (h : config.contextWindowChars < (resolveSource docs label).length) :
    leafExtractions docs config label = splitText (resolveSource docs label)
      (totalChunks config (resolveSource docs label)) config.contextWindowChars := by
  have htwo := (length_le_totalChunks_mul h).1
  have hne : resolveSource docs label ≠ "" := by
    intro hempty
    rw [hempty] at h
    exact Nat.not_lt_zero _ h
  rw [leafExtractions]
  cases hops : leafOps docs config label with
  | nil => exact absurd (leafOps_eq_nil.mp hops) hne
  | cons op ops =>
    have hmem : op ∈ leafOps docs config label := hops ▸ List.mem_cons_self
    simp only [leafOps, if_neg hne, List.mem_map] at hmem
    obtain ⟨index, -, rfl⟩ := hmem
    refine if_neg fun hsingle => ?_
    have hone : totalChunks config (resolveSource docs label) = 1 := hsingle.2
    omega

/-- **The chunks of a source that does not fit** lose nothing and are as few as planned; they fit
the window, when its words do, if and only if the source has words and some division into as many
chunks keeps all but the last within the target size. -/
theorem chunked_iff (config : PlannerConfig) (text : String)
    (h : config.contextWindowChars < text.length) :
    Chunked config text ↔
      ((∀ word ∈ Text.words text, word.length ≤ config.contextWindowChars) →
        Text.words text ≠ [] ∧ Divides (targetSize config text) config.contextWindowChars
          (totalChunks config text - 1) (Text.words text)) := by
  obtain ⟨hlossless, hcount⟩ := splitText_words h
  have hcalls : ∀ docs label, resolveSource docs label = text →
      (leafExtractions docs config label).length ≤ (leafOps docs config label).length := by
    rintro docs label rfl
    rw [leafExtractions_eq h, length_leafOps]
    · exact hcount
    · intro hempty
      rw [hempty] at h
      exact Nat.not_lt_zero _ h
  have hsizes : Chunked config text ↔
      ((∀ word ∈ Text.words text, word.length ≤ config.contextWindowChars) →
        ∀ chunk ∈ splitText text (totalChunks config text) config.contextWindowChars,
          chunk.length ≤ config.contextWindowChars) :=
    ⟨fun hchunked => hchunked.sizes, fun hfits => ⟨hlossless, hcount, hfits, hcalls⟩⟩
  refine hsizes.trans (forall_congr' fun hfit => ?_)
  cases hwords : Text.words text with
  | nil =>
    have htwo := (length_le_totalChunks_mul h).1
    rw [splitText, if_neg (by omega), if_pos hwords]
    simpa using h
  | cons word words =>
    rw [hwords] at hfit
    rw [splitText_eq h hwords, ← greedy_fits_iff (targetSize_le h) hfit, List.forall_mem_map]
    exact ⟨fun hchunks => ⟨List.cons_ne_nil _ _, hchunks⟩, fun hchunks => hchunks.2⟩

lemma totalChunks_eq_two (h : config.contextWindowChars < text.length)
    (htwice : text.length ≤ 2 * config.contextWindowChars) : totalChunks config text = 2 := by
  have hwindow : (0 : ℝ) < config.contextWindowChars := by exact_mod_cast config.window_pos
  simp only [totalChunks, computePlanParams, if_neg (not_le.mpr h)]
  set ratio : ℝ := text.length / config.contextWindowChars
  have hpos : 0 < ratio := div_pos (by exact_mod_cast config.window_pos.trans h) hwindow
  have hratio : ratio ≤ 2 := (div_le_iff₀ hwindow).mpr (by exact_mod_cast htwice)
  have hsqrt : √ratio ≤ (2 : ℕ) := by
    rw [Real.sqrt_le_iff]
    exact ⟨by norm_num, hratio.trans (by norm_num)⟩
  have hk : max (min ⌈√ratio⌉₊ config.maxBranchingFactor) 2 = 2 :=
    max_eq_right ((min_le_left _ _).trans (Nat.ceil_le.mpr hsqrt))
  have hlog : Real.log ratio / Real.log (2 : ℕ) ≤ (1 : ℕ) := by
    rw [Nat.cast_one, div_le_one (Real.log_pos (by norm_num))]
    exact Real.log_le_log hpos (by exact_mod_cast hratio)
  rw [hk, max_eq_right (Nat.ceil_le.mpr hlog)]
  rfl

end Source

/-- A window of five characters. -/
def narrowPlanner : PlannerConfig where
  contextWindowChars := 5
  maxBranchingFactor := 2
  window_pos := by decide
  two_le_branching := by decide

/-- Two words that fit the window are its two chunks. -/
theorem chunked_two_words : Chunked narrowPlanner "aaa bbbb" := by
  refine (chunked_iff narrowPlanner "aaa bbbb" (by decide)).mpr fun _ => ?_
  rw [targetSize, totalChunks_eq_two (by decide) (by decide)]
  refine ⟨by decide +kernel, ?_⟩
  rw [show Text.words "aaa bbbb" = ["aaa"] ++ ["bbbb"] by decide +kernel]
  exact .next (.inr le_rfl) (.last (by decide +kernel))

/-- **Three words that fit the window** and two planned chunks: the first word alone passes half
the target with the second, and the second chunk takes two words. -/
theorem not_chunked_three_words : ¬ Chunked narrowPlanner "aa bbb cc" := by
  intro h
  have hsizes := h.sizes (by decide +kernel)
  rw [totalChunks_eq_two (by decide) (by decide)] at hsizes
  exact absurd hsizes (by decide +kernel)

end AecBench.LambdaRlm
