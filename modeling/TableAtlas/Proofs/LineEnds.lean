import TableAtlas.Proofs.Boundary
import TableAtlas.Text.Keyword
import TableAtlas.Text.Line
import TableAtlas.Text.Search

/-!
# Line ends

A text may end its lines in line feeds, in carriage returns, or in both together. To read them all
as line feeds changes the two sides of a cut apart from each other, unless the cut goes between the
two characters of one line end. What takes the two characters for the same never cuts there.
-/

namespace TableAtlas.Text

variable {u v s : List Char} {c d : Char} {p : Char → Bool}

/-! ## Texts and their parts -/

/-- The character that a single one is read as. -/
def unifyBreak (c : Char) : Char := if c = '\r' then '\n' else c

theorem unifyBreaks_cons (h : c = '\r' → s.head? ≠ some '\n') :
    unifyBreaks (c :: s) = unifyBreak c :: unifyBreaks s := by
  rw [unifyBreaks, unifyBreak]
  rintro cs rfl rfl
  exact h rfl rfl

theorem unifyBreaks_cons_of_ne (h : c ≠ '\r') : unifyBreaks (c :: s) = c :: unifyBreaks s := by
  rw [unifyBreaks_cons fun hc => absurd hc h, unifyBreak, if_neg h]

/-- Where no line end of two characters stands at the front, the first character is no return with
a line feed behind it. -/
theorem head?_ne_newline (h : ∀ cs, c = '\r' → s = '\n' :: cs → False) (hc : c = '\r') :
    s.head? ≠ some '\n' := by
  cases s with
  | nil => simp
  | cons d s =>
    intro hd
    exact h s hc (by simpa using hd)

theorem unifyBreaks_append (h : u.getLast? = some '\r' → v.head? ≠ some '\n') :
    unifyBreaks (u ++ v) = unifyBreaks u ++ unifyBreaks v := by
  fun_induction unifyBreaks u with
  | case1 => rfl
  | case2 u ih =>
    have hlast : u.getLast? = some '\r' → v.head? ≠ some '\n' := by
      intro hu
      exact h (by simp [List.getLast?_cons, hu])
    simp [unifyBreaks, ih hlast]
  | case3 c u hcu ih =>
    have hlast : u.getLast? = some '\r' → v.head? ≠ some '\n' := by
      intro hu
      exact h (by simp [List.getLast?_cons, hu])
    have hcut : c = '\r' → (u ++ v).head? ≠ some '\n' := by
      intro hc
      -- the character behind `c` is one of the back only where `c` is the last of the front
      cases u with
      | nil => exact h (by simp [hc])
      | cons d u => simpa using head?_ne_newline hcu hc
    rw [List.cons_append, unifyBreaks_cons hcut, ih hlast, List.cons_append, unifyBreak]

theorem unifyBreaks_append_cons (hd : d ∉ ['\r', '\n']) (u v : List Char) :
    unifyBreaks (u ++ d :: v) = unifyBreaks u ++ d :: unifyBreaks v := by
  simp only [List.mem_cons, List.not_mem_nil, or_false, not_or] at hd
  rw [unifyBreaks_append fun _ => by simpa using hd.2, unifyBreaks_cons_of_ne hd.1]

theorem unifyBreaks_eq_self (h : '\r' ∉ s) : unifyBreaks s = s := by
  induction s with
  | nil => rfl
  | cons c s ih =>
    obtain ⟨hc, hs⟩ := not_or.1 (List.mem_cons.not.1 h)
    rw [unifyBreaks_cons_of_ne (Ne.symm hc), ih hs]

theorem isEmpty_unifyBreaks (s : List Char) : (unifyBreaks s).isEmpty = s.isEmpty := by
  fun_cases unifyBreaks s <;> rfl

theorem head?_unifyBreaks (s : List Char) : (unifyBreaks s).head? = s.head?.map unifyBreak := by
  fun_cases unifyBreaks s <;> rfl

theorem getLast?_unifyBreaks (s : List Char) :
    (unifyBreaks s).getLast? = s.getLast?.map unifyBreak := by
  fun_induction unifyBreaks s with
  | case1 => rfl
  | case2 s ih => cases h : s.getLast? <;> simp [List.getLast?_cons, ih, h, unifyBreak]
  | case3 c s hcs ih => cases h : s.getLast? <;> simp [List.getLast?_cons, ih, h, unifyBreak]

/-- A class that holds both characters of a line end or none of them. -/
def BreaksAlike (p : Char → Bool) : Prop := p '\r' = p '\n'

instance : Decidable (BreaksAlike p) := inferInstanceAs (Decidable (p '\r' = p '\n'))

theorem BreaksAlike.apply_unifyBreak (hp : BreaksAlike p) (c : Char) : p (unifyBreak c) = p c := by
  unfold unifyBreak
  split
  case isTrue hc => rw [hc, hp]
  case isFalse => rfl

theorem forall_mem_unifyBreaks (hp : BreaksAlike p) {b : Bool} :
    (∀ x ∈ unifyBreaks s, p x = b) ↔ ∀ x ∈ s, p x = b := by
  fun_induction unifyBreaks s with
  | case1 => rfl
  | case2 s ih =>
    have hreturn : p '\r' = p '\n' := hp
    simp [ih, hreturn]
  | case3 c s hcs ih =>
    have hc := hp.apply_unifyBreak c
    unfold unifyBreak at hc
    simp [ih, hc]

theorem mem_unifyBreaks_iff (hd : d ∉ ['\r', '\n']) : d ∈ unifyBreaks s ↔ d ∈ s := by
  simp only [List.mem_cons, List.not_mem_nil, or_false, not_or] at hd
  fun_induction unifyBreaks s with
  | case1 => rfl
  | case2 s ih => simp [ih, hd]
  | case3 c s hcs ih => by_cases hc : c = '\r' <;> simp [ih, hd, hc]

theorem newline_mem_unifyBreaks : '\n' ∈ unifyBreaks s ↔ '\r' ∈ s ∨ '\n' ∈ s := by
  fun_induction unifyBreaks s with
  | case1 => simp
  | case2 s ih => simp
  | case3 c s hcs ih =>
    by_cases hc : c = '\r'
    · simp [hc]
    · simp only [List.mem_cons, ih, eq_comm (a := '\r'), hc, false_or]
      tauto

/-- Only a text without line ends becomes one without them. -/
theorem unifyBreaks_eq_iff {n : List Char} (hn : '\r' ∉ n) (hn' : '\n' ∉ n) :
    unifyBreaks s = n ↔ s = n := by
  constructor
  · rintro rfl
    rw [newline_mem_unifyBreaks, not_or] at hn'
    exact (unifyBreaks_eq_self hn'.1).symm
  · rintro rfl
    exact unifyBreaks_eq_self hn

/-! ## Runs -/

theorem BreaksAlike.forall_mem_map (hp : BreaksAlike p) {o : Option Char} {b : Bool}
    (h : ∀ x ∈ o, p x = b) : ∀ x ∈ o.map unifyBreak, p x = b := by
  intro x hx
  obtain ⟨c, hc, rfl⟩ := Option.map_eq_some_iff.1 hx
  rw [hp.apply_unifyBreak, h c hc]

/-- No line end stands across the end of a run. -/
theorem unifyBreaks_run (hp : BreaksAlike p) (hu : ∀ x ∈ u, p x = true)
    (hv : ∀ x ∈ v.head?, p x = false) : unifyBreaks (u ++ v) = unifyBreaks u ++ unifyBreaks v := by
  apply unifyBreaks_append
  intro hlast hhead
  have hreturn := hu '\r' (List.mem_of_getLast? hlast)
  rw [hp, hv '\n' hhead] at hreturn
  cases hreturn

theorem takeWhile_unifyBreaks (hp : BreaksAlike p) (s : List Char) :
    (unifyBreaks s).takeWhile p = unifyBreaks (s.takeWhile p) := by
  obtain ⟨u, v, rfl, hu, hv⟩ := exists_run p s
  rw [unifyBreaks_run hp hu hv, takeWhile_run hu hv,
    takeWhile_run ((forall_mem_unifyBreaks hp).2 hu) (head?_unifyBreaks v ▸ hp.forall_mem_map hv)]

theorem dropWhile_unifyBreaks (hp : BreaksAlike p) (s : List Char) :
    (unifyBreaks s).dropWhile p = unifyBreaks (s.dropWhile p) := by
  obtain ⟨u, v, rfl, hu, hv⟩ := exists_run p s
  rw [unifyBreaks_run hp hu hv, dropWhile_run hu hv,
    dropWhile_run ((forall_mem_unifyBreaks hp).2 hu) (head?_unifyBreaks v ▸ hp.forall_mem_map hv)]

theorem dropWhile_reverse_unifyBreaks (hp : BreaksAlike p) (s : List Char) :
    ((unifyBreaks s).reverse.dropWhile p).reverse =
      unifyBreaks (s.reverse.dropWhile p).reverse := by
  obtain ⟨t, u, htu, ht, hu⟩ := exists_run p s.reverse
  obtain rfl : s = u.reverse ++ t.reverse := by simpa using congrArg List.reverse htu
  have hcut : unifyBreaks (u.reverse ++ t.reverse) =
      unifyBreaks u.reverse ++ unifyBreaks t.reverse := by
    apply unifyBreaks_append
    intro hlast hhead
    have hreturn := hu '\r' (by simpa using hlast)
    rw [hp, ht '\n' (by simpa using List.mem_of_head? hhead)] at hreturn
    cases hreturn
  have hback : ∀ x ∈ (unifyBreaks t.reverse).reverse, p x = true := by
    simpa [forall_mem_unifyBreaks hp] using ht
  have hfront : ∀ x ∈ (unifyBreaks u.reverse).reverse.head?, p x = false := by
    rw [List.head?_reverse, getLast?_unifyBreaks, List.getLast?_reverse]
    exact hp.forall_mem_map hu
  rw [hcut, List.reverse_append, dropWhile_run hback hfront, List.reverse_reverse, htu,
    dropWhile_run ht hu]

theorem trimBy_unifyBreaks (hp : BreaksAlike p) (s : List Char) :
    trimBy p (unifyBreaks s) = unifyBreaks (trimBy p s) := by
  rw [trimBy, trimBy, dropWhile_unifyBreaks hp, dropWhile_reverse_unifyBreaks hp]

/-! ## Lines and words -/

theorem linesFrom_cons (h : c = '\r' → s.head? ≠ some '\n') (pending : List Char) :
    linesFrom pending (c :: s) =
      if isLineBreak c then pending.reverse :: linesFrom [] s else linesFrom (c :: pending) s := by
  rw [linesFrom]
  rintro cs rfl rfl
  exact h rfl rfl

theorem linesFrom_unifyBreaks (pending s : List Char) :
    linesFrom pending (unifyBreaks s) = linesFrom pending s := by
  have hreturn : isLineBreak '\r' = true := by decide
  have hfeed : isLineBreak '\n' = true := by decide
  fun_induction unifyBreaks s generalizing pending with
  | case1 => rfl
  | case2 s ih => rw [linesFrom_cons (by simp), if_pos hfeed, linesFrom, ih]
  | case3 c s hcs ih =>
    rw [linesFrom_cons (head?_ne_newline hcs)]
    by_cases hc : c = '\r'
    · rw [if_pos hc, linesFrom_cons (by simp), if_pos hfeed, hc, if_pos hreturn, ih]
    · rw [if_neg hc, linesFrom_cons (fun h => absurd h hc), ih, ih]

theorem lines_unifyBreaks (s : List Char) : lines (unifyBreaks s) = lines s :=
  linesFrom_unifyBreaks [] s

theorem wordsFrom_unifyBreaks (pending s : List Char) :
    wordsFrom pending (unifyBreaks s) = wordsFrom pending s := by
  have hreturn : isBlank '\r' = true := by decide
  have hfeed : isBlank '\n' = true := by decide
  fun_induction unifyBreaks s generalizing pending with
  | case1 => rfl
  | case2 s ih => simp [wordsFrom, hreturn, hfeed, ih]
  | case3 c s hcs ih => by_cases hc : c = '\r' <;> simp [wordsFrom, hc, hreturn, hfeed, ih]

theorem squeeze_unifyBreaks (s : List Char) : squeeze (unifyBreaks s) = squeeze s := by
  rw [squeeze, words, wordsFrom_unifyBreaks, ← words, ← squeeze]

/-! ## Readers -/

/-- Whether a reader takes all line ends for the same. -/
def BreakBlind (f : List Char → Option (List Char)) : Prop :=
  ∀ s, f (unifyBreaks s) = (f s).map unifyBreaks

variable {f g : List Char → Option (List Char)}

theorem BreakBlind.bind (hf : BreakBlind f) (hg : BreakBlind g) :
    BreakBlind fun s => (f s).bind g := by
  intro s
  simp only [hf s, Option.bind_map, Function.comp_def, hg _, Option.map_bind]

theorem BreakBlind.dropWhile (hf : BreakBlind f) (hp : BreaksAlike p) :
    BreakBlind fun s => f (s.dropWhile p) := by
  intro s
  simp only [dropWhile_unifyBreaks hp, hf _]

/-- A reader that refuses the characters of line ends at the front needs to be blind behind the
first character only. -/
theorem breakBlind_of_cons (hnil : f [] = none) (hreturn : ∀ s, f ('\r' :: s) = none)
    (hfeed : ∀ s, f ('\n' :: s) = none)
    (hcons : ∀ c s, f (c :: unifyBreaks s) = (f (c :: s)).map unifyBreaks) : BreakBlind f := by
  intro s
  fun_cases unifyBreaks s with
  | case1 => rw [hnil, Option.map_none]
  | case2 s => rw [hfeed, hreturn, Option.map_none]
  | case3 c s hcs =>
    by_cases hc : c = '\r'
    · rw [if_pos hc, hc, hfeed, hreturn, Option.map_none]
    · rw [if_neg hc, hcons]

theorem breakBlind_afterKeyword? {k : List Char}
    (hk : ∀ c ∈ k, sameLetter c '\r' = false ∧ sameLetter c '\n' = false) :
    BreakBlind (afterKeyword? k) := by
  induction k with
  | nil =>
    intro s
    simp [afterKeyword?]
  | cons d k ih =>
    have hd := hk d (by simp)
    refine breakBlind_of_cons rfl (by simp [afterKeyword?, hd.1]) (by simp [afterKeyword?, hd.2]) ?_
    intro c s
    rw [afterKeyword?, afterKeyword?]
    split
    · exact ih (fun x hx => hk x (by simp [hx])) s
    · rfl

theorem breakBlind_afterChar? (hd : d ∉ ['\r', '\n']) : BreakBlind (afterChar? d) := by
  simp only [List.mem_cons, List.not_mem_nil, or_false, not_or] at hd
  refine breakBlind_of_cons rfl ?_ ?_ ?_
  · simp [afterChar?, Ne.symm hd.1]
  · simp [afterChar?, Ne.symm hd.2]
  · intro c s
    rw [afterChar?, afterChar?]
    split <;> rfl

theorem breakBlind_afterBlanks? : BreakBlind afterBlanks? := by
  have halike : BreaksAlike isBlank := by decide
  have hreturn : isBlank '\r' = true := by decide
  have hfeed : isBlank '\n' = true := by decide
  intro s
  fun_cases unifyBreaks s with
  | case1 => rfl
  | case2 s => simp [afterBlanks?, hreturn, hfeed, dropWhile_unifyBreaks halike]
  | case3 c s hcs =>
    by_cases hc : c = '\r'
    · simp [afterBlanks?, hc, hreturn, hfeed, dropWhile_unifyBreaks halike]
    · rw [if_neg hc, afterBlanks?, afterBlanks?, dropWhile_unifyBreaks halike]
      split <;> rfl

theorem breaksAlike_ne (hd : d ∉ ['\r', '\n']) : BreaksAlike (· ≠ d) := by
  simp only [List.mem_cons, List.not_mem_nil, or_false, not_or] at hd
  simp [BreaksAlike, Ne.symm hd.1, Ne.symm hd.2]

theorem breakBlind_enclosed? (hc : c ∉ ['\r', '\n']) (hd : d ∉ ['\r', '\n']) :
    BreakBlind (enclosed? c d) := by
  apply (breakBlind_afterChar? hc).bind
  intro s
  simp only [takeWhile_unifyBreaks (breaksAlike_ne hd), dropWhile_unifyBreaks (breaksAlike_ne hd),
    isEmpty_unifyBreaks]
  split
  · rfl
  · simp only [bind, breakBlind_afterChar? hd _, Option.bind_map, Option.map_bind]
    rfl

/-- The search for a text that does not begin with a line end meets none that is cut in two. -/
theorem BreakBlind.search? (hf : BreakBlind f) (hfeed : ∀ s, f ('\n' :: s) = none) :
    BreakBlind (search? f) := by
  have hreturn : ∀ s, f ('\r' :: s) = none := by
    intro s
    obtain ⟨t, ht⟩ := List.head?_eq_some_iff.1 (head?_unifyBreaks ('\r' :: s))
    have h := hf ('\r' :: s)
    rw [ht, unifyBreak, if_pos rfl, hfeed] at h
    exact Option.map_eq_none_iff.1 h.symm
  intro s
  fun_induction unifyBreaks s with
  | case1 => exact hf []
  | case2 s ih =>
    -- two places here and one there, and the reader refuses at all of them
    simp only [Text.search?, hfeed, hreturn, Option.none_or, ih]
  | case3 c s hcs ih =>
    have hfront := hf (c :: s)
    rw [unifyBreaks_cons (head?_ne_newline hcs), unifyBreak] at hfront
    rw [Text.search?, Text.search?, hfront, ih, Option.map_or]

end TableAtlas.Text
