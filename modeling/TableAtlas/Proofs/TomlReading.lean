import TableAtlas.Proofs.Boundary
import TableAtlas.Toml.Reader
import TableAtlas.Toml.Writer

/-!
# TOML read back

What a style writes is read back: the characters of a string, the strings of an array, the value of
a setting on a line of its own. A string is read back in front of everything but a further quote,
since three quotes begin a string of another kind.
-/

namespace TableAtlas.Toml

open Text Config

/-! ## Strings -/

section Strings

variable {w : Style} {c : Char} {done rest : List Char}

theorem basicBody?_quote : basicBody? false done ('"' :: rest) = some (done.reverse, rest) := by
  rw [basicBody?.eq_def]
  simp

theorem basicBody?_plain (hc : isControl c = false) (hquote : c ≠ '"') (hslash : c ≠ '\\') :
    basicBody? false done (c :: rest) = basicBody? false (c :: done) rest := by
  rw [basicBody?]
  · simp [hc]
  · exact hquote
  · exact hslash

theorem basicBody?_escaped {chars rest' : List Char} (h : escape? false rest = some (chars, rest'))
    (hlength : rest'.length ≤ rest.length) :
    basicBody? false done ('\\' :: rest) = basicBody? false (chars.reverse ++ done) rest' := by
  rw [basicBody?, h]
  simp [hlength]

theorem codedChar?_hex (hc : c.toNat < 0x10000) :
    codedChar? 4 (hex 4 c.toNat ++ rest) = some (c, rest) := by
  have htake : (hex 4 c.toNat ++ rest).take 4 = hex 4 c.toNat := by simp
  have hdrop : (hex 4 c.toNat ++ rest).drop 4 = rest := by simp
  have hvalue : c.toNat % Nat.pow 16 4 = c.toNat := Nat.mod_eq_of_lt hc
  have hvalid : c.toNat.isValidChar := c.valid
  simp only [codedChar?, htake, hdrop, length_hex, hexValue?_hex, hvalue, hvalid, ↓reduceIte,
    Char.ofNat_toNat]

theorem basicBody?_escape :
    basicBody? false done (w.escape c ++ rest) = basicBody? false (c :: done) rest := by
  unfold Style.escape
  split
  case isTrue h =>
    have hshort : escape? false (c :: rest) = some ([c], rest) := by
      rcases (by simpa using h : c = '"' ∨ c = '\\') with rfl | rfl <;> rfl
    exact basicBody?_escaped hshort (by simp)
  case isFalse h =>
    obtain ⟨hquote, hslash⟩ : c ≠ '"' ∧ c ≠ '\\' := by simpa using h
    split
    case isTrue hcoded =>
      have hcode : escape? false ('u' :: (hex 4 c.toNat ++ rest)) = some ([c], rest) := by
        simp [escape?, codedChar?_hex (w.code_lt c hcoded)]
      exact basicBody?_escaped hcode (by simp; omega)
    case isFalse hplain =>
      have hcontrol : isControl c = false := by
        by_contra hcontrol
        exact hplain (w.isCoded_of_isControl c (by simpa using hcontrol))
      exact basicBody?_plain hcontrol hquote hslash

theorem basicBody?_flatMap (s : List Char) :
    basicBody? false done (s.flatMap w.escape ++ '"' :: rest) = some (done.reverse ++ s, rest) := by
  induction s generalizing done with
  | nil => simp [basicBody?_quote]
  | cons c s ih =>
    rw [List.flatMap_cons, List.append_assoc, basicBody?_escape, ih]
    simp

/-- An escaped character does not begin with a quote. -/
theorem head_escape (c : Char) : ∃ d ds, w.escape c = d :: ds ∧ d ≠ '"' := by
  unfold Style.escape
  split
  · exact ⟨_, _, rfl, by decide⟩
  · split
    · exact ⟨_, _, rfl, by decide⟩
    · exact ⟨_, _, rfl, by simp_all⟩

/-- What stands behind a string must not be taken for two more quotes at its front. -/
theorem string?_string (s : String) (h : ∀ x ∈ rest.head?, x ≠ '"') :
    string? (w.string s ++ rest) = some (s.toList, rest) := by
  have hbody : w.string s ++ rest = '"' :: (s.toList.flatMap w.escape ++ '"' :: rest) := by
    simp [Style.string]
  have hsingle : ∀ cs, s.toList.flatMap w.escape ++ '"' :: rest ≠ '"' :: '"' :: cs := by
    intro cs hcs
    cases hs : s.toList with
    | nil =>
      rw [hs] at hcs
      have htwo : rest = '"' :: cs := (List.cons.inj hcs).2
      exact h '"' (by rw [htwo]; rfl) rfl
    | cons c s =>
      obtain ⟨d, ds, hd, hne⟩ := head_escape (w := w) c
      rw [hs, List.flatMap_cons, hd] at hcs
      exact hne (List.cons.inj hcs).1
  rw [hbody, string?]
  · rw [basicBody?_flatMap]
    rfl
  · exact hsingle

end Strings

/-! ## Values -/

section Values

variable {w : Style} {rest : List Char}

theorem value_string (depth : Nat) (s : String) (h : ∀ x ∈ rest.head?, x ≠ '"') :
    value (depth + 1) (w.string s ++ rest) = .ok (.text s, rest) := by
  have hvalue : value (depth + 1) (w.string s ++ rest) =
      orMalformed ((string? (w.string s ++ rest)).map fun r => (.text (String.ofList r.1), r.2)) :=
    rfl
  rw [hvalue, string?_string s h]
  simp [orMalformed]

theorem skipFiller?_cons {d : Char} (hd : isBlankOrBreak d = false) (hcomment : d ≠ '#') :
    skipFiller? false (d :: rest) = some (d :: rest) := by
  simp [skipFiller?, hd, hcomment]

theorem skipFiller?_append_cons {gap : List Char} (hgap : ∀ c ∈ gap, isBlankOrBreak c = true)
    {d : Char} (hd : isBlankOrBreak d = false) (hcomment : d ≠ '#') :
    skipFiller? false (gap ++ d :: rest) = some (d :: rest) := by
  induction gap with
  | nil => exact skipFiller?_cons hd hcomment
  | cons c gap ih =>
    rw [List.cons_append, skipFiller?]
    simp only [Bool.false_eq_true, ↓reduceIte, hgap c (by simp)]
    exact ih fun x hx => hgap x (by simp [hx])

section Items

variable {item : Reader Value} {done : List Value} {s r more : List Char} {v : Value}

theorem arrayItems_nil : arrayItems item done (']' :: rest) = .ok (.list done.reverse, rest) := by
  rw [arrayItems.eq_def]
  simp

theorem arrayItems_close (hs : ∀ cs, s ≠ ']' :: cs) (hitem : item s = .ok (v, r))
    (hfiller : skipFiller? false r = some (']' :: rest)) :
    arrayItems item done s = .ok (.list (done.reverse ++ [v]), rest) := by
  rw [arrayItems]
  · simp [hitem, hfiller, orMalformed, bind, Except.bind]
  · exact hs

theorem arrayItems_comma (hs : ∀ cs, s ≠ ']' :: cs) (hitem : item s = .ok (v, r))
    (hfiller : skipFiller? false r = some (',' :: rest))
    (hmore : skipFiller? false rest = some more) (hlength : more.length < s.length) :
    arrayItems item done s = arrayItems item (v :: done) more := by
  rw [arrayItems]
  · simp [hitem, hfiller, hmore, hlength, orMalformed, bind, Except.bind]
  · exact hs

end Items

theorem arrayItems_array (depth : Nat) (names : List String) (done : List Value) :
    arrayItems (value (depth + 1)) done
        ((',' :: w.gap).intercalate (names.map w.string) ++ ']' :: rest) =
      .ok (.list (done.reverse ++ names.map .text), rest) := by
  have hclosing : ∀ t : List Char, skipFiller? false (']' :: t) = some (']' :: t) := fun _ =>
    skipFiller?_cons (by decide) (by decide)
  have hcomma : ∀ t : List Char, skipFiller? false (',' :: t) = some (',' :: t) := fun _ =>
    skipFiller?_cons (by decide) (by decide)
  have hopen : ∀ (s : String) (t cs : List Char), w.string s ++ t ≠ ']' :: cs := by
    intro s t cs h
    exact absurd (List.cons.inj h).1 (by decide)
  induction names generalizing done with
  | nil => simpa using arrayItems_nil
  | cons s names ih =>
    cases names with
    | nil =>
      have hitem : value (depth + 1) (w.string s ++ ']' :: rest) = .ok (.text s, ']' :: rest) :=
        value_string depth s (by simp)
      simpa using arrayItems_close (hopen s _) hitem (hclosing rest)
    | cons s' names =>
      obtain ⟨more, hmore⟩ : ∃ more, (',' :: w.gap).intercalate ((s' :: names).map w.string) ++
          ']' :: rest = '"' :: more := by
        cases names with
        | nil => exact ⟨_, by simp [Style.string]; rfl⟩
        | cons => exact ⟨_, by simp [Style.string, List.intercalate_cons_cons]; rfl⟩
      have htext : (',' :: w.gap).intercalate ((s :: s' :: names).map w.string) ++ ']' :: rest =
          w.string s ++ ',' :: (w.gap ++ '"' :: more) := by
        rw [← hmore, List.map_cons, List.map_cons, List.intercalate_cons_cons]
        simp
      have hitem : value (depth + 1) (w.string s ++ ',' :: (w.gap ++ '"' :: more)) =
          .ok (.text s, ',' :: (w.gap ++ '"' :: more)) := value_string depth s (by simp)
      have hgap : skipFiller? false (w.gap ++ '"' :: more) = some ('"' :: more) :=
        skipFiller?_append_cons w.isBlankOrBreak_of_mem_gap (by decide) (by decide)
      rw [htext, arrayItems_comma (hopen s _) hitem (hcomma _) hgap, ← hmore, ih]
      · simp
      · simp
        omega

theorem value_array (depth : Nat) (names : List String) :
    value (depth + 2) (w.array names ++ rest) = .ok (.list (names.map .text), rest) := by
  have hitems : arrayItems (value (depth + 1)) []
      ((',' :: w.gap).intercalate (names.map w.string) ++ ']' :: rest) =
        .ok (.list (names.map .text), rest) := arrayItems_array depth names []
  obtain ⟨d, more, hmore, hd⟩ : ∃ d more,
      (',' :: w.gap).intercalate (names.map w.string) ++ ']' :: rest = d :: more ∧
        (d = ']' ∨ d = '"') := by
    cases names with
    | nil => exact ⟨']', rest, by simp, .inl rfl⟩
    | cons s names =>
      cases names with
      | nil => exact ⟨'"', _, by simp [Style.string]; rfl, .inr rfl⟩
      | cons => exact ⟨'"', _, by simp [Style.string, List.intercalate_cons_cons]; rfl, .inr rfl⟩
  have hfiller : skipFiller? false (d :: more) = some (d :: more) := by
    rcases hd with rfl | rfl
    · exact skipFiller?_cons (by decide) (by decide)
    · exact skipFiller?_cons (by decide) (by decide)
  have htext : w.array names ++ rest = '[' :: (d :: more) := by
    rw [← hmore]
    simp [Style.array]
  have hvalue : value (depth + 2) ('[' :: (d :: more)) =
      (orMalformed (skipFiller? false (d :: more))).bind (arrayItems (value (depth + 1)) []) := rfl
  rw [hmore] at hitems
  rw [htext, hvalue, hfiller]
  exact hitems

end Values

/-! ## Statements -/

section Statements

variable {name rest : List Char}

/-- A key of one part. What stands behind it must not go on with it or with a further part. -/
theorem key?_bare (hne : name ≠ []) (hbare : ∀ c ∈ name, isBareKeyChar c = true)
    (hrest : ∀ c ∈ rest.head?, isBareKeyChar c = false) (hdot : ∀ cs, skipBlanks rest ≠ '.' :: cs) :
    key? (name ++ rest) = some ([String.ofList name], skipBlanks rest) := by
  obtain ⟨c, cs, rfl⟩ := List.exists_cons_of_ne_nil hne
  have hquote : ∀ d, isBareKeyChar d = false → c ≠ d := by
    rintro d hd rfl
    rw [hbare c (by simp)] at hd
    cases hd
  have hpart : keyPart? (c :: cs ++ rest) = some (String.ofList (c :: cs), rest) := by
    rw [List.cons_append, keyPart?]
    · rw [← List.cons_append, takeWhile_run hbare hrest, dropWhile_run hbare hrest]
      rfl
    · intro t ht
      exact hquote '"' (by decide) (List.cons.inj ht).1
    · intro t ht
      exact hquote '\'' (by decide) (List.cons.inj ht).1
  rw [key?, hpart]
  simp only

/-- A line is read with its end, and then the lines behind it. -/
theorem readFrom_line {a a' : Assembly} {c : Char} {cs : List Char} (hc : isBlank c = false)
    (h : statement a (c :: cs) = .ok (a', '\n' :: rest))
    (hlength : rest.length < (c :: cs).length) :
    readFrom a (c :: cs) = readFrom a' rest := by
  have hskip : skipBlanks (c :: cs) = c :: cs := by
    rw [skipBlanks, List.dropWhile_cons_of_neg (by simp [hc])]
  have hend : lineEnd? ('\n' :: rest) = some rest := rfl
  rw [readFrom, hskip]
  simp only [h, hend, orMalformed, bind, Except.bind, if_pos hlength]

theorem not_isBlank_of_isBareKeyChar {c : Char} (h : isBareKeyChar c = true) :
    isBlank c = false := by
  cases hc : isBlank c with
  | false => rfl
  | true =>
    rcases (by simpa [isBlank] using hc : c = ' ' ∨ c = '\t') with rfl | rfl
    · exact absurd h (by decide)
    · exact absurd h (by decide)

/-- A setting is read as its value, which may be as deep as the text is long. -/
theorem readFrom_settingLine {a a' : Assembly} {name : String} {text : List Char} {v : Value}
    (hne : name.toList ≠ []) (hbare : ∀ c ∈ name.toList, isBareKeyChar c = true)
    (htext : ∀ c ∈ text.head?, isBlank c = false)
    (hvalue : ∀ depth, value (depth + 2) (text ++ '\n' :: rest) = .ok (v, '\n' :: rest))
    (hset : a.set [name] v = some a') :
    readFrom a (settingLine name text ++ rest) = readFrom a' rest := by
  obtain ⟨c, cs, hname⟩ := List.exists_cons_of_ne_nil hne
  have hkey : key? (settingLine name text ++ rest) =
      some ([name], '=' :: ' ' :: (text ++ '\n' :: rest)) := by
    have hline : settingLine name text ++ rest =
        name.toList ++ ' ' :: '=' :: ' ' :: (text ++ '\n' :: rest) := by
      simp [settingLine]
    rw [hline, key?_bare hne hbare, String.ofList_toList]
    · rfl
    · exact forall_mem_head?_cons (by decide)
    · intro cs h
      exact absurd (List.cons.inj h).1 (by decide)
  have hskip : skipBlanks (' ' :: (text ++ '\n' :: rest)) = text ++ '\n' :: rest := by
    have hhead : ∀ x ∈ (text ++ '\n' :: rest).head?, isBlank x = false := by
      cases text with
      | nil => exact forall_mem_head?_cons (by decide)
      | cons d ds => exact forall_mem_head?_cons (htext d rfl)
    exact dropWhile_run (u := [' ']) (by decide) hhead
  have hlong : 2 ≤ (settingLine name text ++ rest).length := by
    simp [settingLine]
    omega
  obtain ⟨depth, hdepth⟩ := Nat.exists_eq_add_of_le' hlong
  have hread : keyAndValue (value (settingLine name text ++ rest).length)
      (settingLine name text ++ rest) = .ok (([name], v), '\n' :: rest) := by
    rw [keyAndValue, hkey, hdepth]
    simp [orMalformed, char?, hskip, hvalue, bind, Except.bind, pure, Except.pure]
  have hline : settingLine name text ++ rest =
      c :: (cs ++ ' ' :: '=' :: ' ' :: (text ++ '\n' :: rest)) := by
    simp [settingLine, hname]
  have hc : isBareKeyChar c = true := hbare c (by simp [hname])
  have hbracket : c ≠ '[' := by
    rintro rfl
    exact absurd hc (by decide)
  rw [hline] at hread ⊢
  apply readFrom_line (not_isBlank_of_isBareKeyChar hc)
  · rw [statement]
    · have hstart : isKeyStart c = true := by simp [isKeyStart, hc]
      simp only [hstart, ↓reduceIte, bind, Except.bind, hread, hset, orMalformed]
      rfl
    · exact fun t h _ => hbracket h
    · exact hbracket
  · simp
    omega

/-- A header adds an empty table and goes on under its path. -/
theorem readFrom_listTableLine {a a' : Assembly} {name : String} (hne : name.toList ≠ [])
    (hbare : ∀ c ∈ name.toList, isBareKeyChar c = true) (hopen : a.openListTable [name] = some a') :
    readFrom a (listTableLine name ++ rest) = readFrom a' rest := by
  have hkey : key? (name.toList ++ ']' :: ']' :: '\n' :: rest) =
      some ([name], ']' :: ']' :: '\n' :: rest) := by
    rw [key?_bare hne hbare, String.ofList_toList]
    · rfl
    · exact forall_mem_head?_cons (by decide)
    · intro cs h
      exact absurd (List.cons.inj h).1 (by decide)
  have hskip : skipBlanks (name.toList ++ ']' :: ']' :: '\n' :: rest) =
      name.toList ++ ']' :: ']' :: '\n' :: rest := by
    obtain ⟨c, cs, hname⟩ := List.exists_cons_of_ne_nil hne
    rw [hname, List.cons_append, skipBlanks, List.dropWhile_cons_of_neg]
    simp [not_isBlank_of_isBareKeyChar (hbare c (by simp [hname]))]
  have hline : listTableLine name ++ rest =
      '[' :: '[' :: (name.toList ++ ']' :: ']' :: '\n' :: rest) := by
    simp [listTableLine]
  have hheader : headerKey ['[', '['] [']', ']'] (listTableLine name ++ rest) =
      .ok ([name], '\n' :: rest) := by
    have hdrop : (listTableLine name ++ rest).drop ['[', '['].length =
        name.toList ++ ']' :: ']' :: '\n' :: rest := by
      rw [hline]
      rfl
    rw [headerKey, hdrop, hskip, hkey]
    rfl
  rw [hline] at hheader ⊢
  apply readFrom_line (by decide)
  · rw [statement, hheader]
    simp [hopen, orMalformed, bind, Except.bind, pure, Except.pure]
  · simp
    omega

end Statements

end TableAtlas.Toml
