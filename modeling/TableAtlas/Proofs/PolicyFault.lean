import TableAtlas.Policy.File
import TableAtlas.Proofs.ByteReading
import TableAtlas.Proofs.LongNumber

/-!
# Reports on policy files

A file that gives no policy is reported by its name, but for three kinds of files: a name that no
file can have, bytes that are no text, and a whole number that is too long to be read. Each of the
three is reported by its own message, which does not tell the file.
-/

namespace TableAtlas.Policy

open Text

theorem head?_toList_append {s : String} {c : Char} (h : s.toList.head? = some c) (t : String) :
    (s ++ t).toList.head? = some c := by
  rw [String.toList_append, List.head?_append, h, Option.some_or]

namespace FileError

/-- Whether the report of a failure begins with the name of the file. -/
def IsNamed (l : Location) (e : FileError) : Prop := ∃ detail, e.message l = named l detail

theorem head?_named (l : Location) (detail : String) :
    (named l detail).toList.head? = some 'I' := by
  have hfront : "Invalid relationship policy file ".toList.head? = some 'I' := by decide
  exact head?_toList_append (head?_toList_append (head?_toList_append hfront _) _) _

theorem not_isNamed {l : Location} {e : FileError} {c : Char}
    (h : (e.message l).toList.head? = some c) (hc : c ≠ 'I') : ¬ e.IsNamed l := by
  rintro ⟨detail, hdetail⟩
  rw [hdetail, head?_named] at h
  exact hc (Option.some.inj h).symm

theorem not_isNamed_nulInName (l : Location) : ¬ (unopened .nulInName).IsNamed l := by
  have hhead : OpenError.nulInName.text.toList.head? = some 'e' := by decide
  exact not_isNamed hhead (by decide)

theorem head?_faultMessage (fault : Utf8.Fault) : fault.message.toList.head? = some '\'' := by
  have hone : "'utf-8' codec can't decode byte 0x".toList.head? = some '\'' := by decide
  have hseveral : "'utf-8' codec can't decode bytes in position ".toList.head? = some '\'' := by
    decide
  rw [Utf8.Fault.message]
  split
  · exact head?_toList_append (head?_toList_append (head?_toList_append
      (head?_toList_append (head?_toList_append hone _) _) _) _) _
  · exact head?_toList_append (head?_toList_append (head?_toList_append
      (head?_toList_append (head?_toList_append hseveral _) _) _) _) _

theorem not_isNamed_undecodable (l : Location) (fault : Utf8.Fault) :
    ¬ (undecodable fault).IsNamed l :=
  not_isNamed (head?_faultMessage fault) (by decide)

theorem not_isNamed_integerTooLong (l : Location) (n : Nat) : ¬ (integerTooLong n).IsNamed l := by
  have hfront : ("Exceeds the limit (4300 digits) for integer string conversion: value has " :
      String).toList.head? = some 'E' := by decide
  have hhead : ((integerTooLong n).message l).toList.head? = some 'E' :=
    head?_toList_append (head?_toList_append hfront _) _
  exact not_isNamed hhead (by decide)

theorem isNamed_unopened {l : Location} {cause : OpenError} (h : cause ≠ .nulInName) :
    (unopened cause).IsNamed l := by
  refine ⟨cause.message l, if_pos ?_⟩
  simpa [OpenError.namesLocation] using h

end FileError

/-- Whether a policy is given, or a failure that is reported by the name of the file. -/
def IsPolicyOrNamed (l : Location) : Except FileError Policy → Prop
  | .ok _ => True
  | .error e => e.IsNamed l

section Stages

variable {l : Location}

theorem isPolicyOrNamed_ofText_iff {s : List Char} :
    IsPolicyOrNamed l (ofText s) ↔ ∀ n, Toml.read s ≠ .error (.integerTooLong n) := by
  unfold ofText
  cases hread : Toml.read s with
  | ok entries =>
    refine iff_of_true ?_ (by simp)
    dsimp only
    cases ofSettings entries with
    | ok p => trivial
    | error cause => exact ⟨cause.detail, rfl⟩
  | error fault =>
    cases fault with
    | malformed => exact iff_of_true ⟨"<TOMLDecodeError>", rfl⟩ (by simp)
    | integerTooLong n => exact iff_of_false (FileError.not_isNamed_integerTooLong l n) (by simp)

theorem isPolicyOrNamed_ofBytes_iff {bytes : List UInt8} :
    IsPolicyOrNamed l (ofBytes bytes) ↔
      ∃ s, bytes = Utf8.encode s ∧ IsPolicyOrNamed l (ofText s) := by
  unfold ofBytes
  simp only [← Utf8.decode_eq_ok_iff]
  cases hdecode : Utf8.decode bytes with
  | error fault => simp [IsPolicyOrNamed, FileError.not_isNamed_undecodable]
  | ok s => simp

theorem open?_eq_nulInName_iff {t : FileTree} :
    t.open? l = .error .nulInName ↔ l.holdsNul = true := by
  unfold FileTree.open?
  split
  case isTrue h => simp [h]
  case isFalse h => cases t.find l <;> simp [h]

theorem isPolicyOrNamed_load_iff {t : FileTree} :
    IsPolicyOrNamed l (load t l) ↔ l.holdsNul = false ∧
      ∀ bytes, t.open? l = .ok bytes → IsPolicyOrNamed l (ofBytes bytes) := by
  have hnul : l.holdsNul = false ↔ t.open? l ≠ .error .nulInName := by
    rw [Ne, open?_eq_nulInName_iff, Bool.not_eq_true]
  unfold load
  cases hopen : t.open? l with
  | ok bytes => simp [hnul, hopen]
  | error cause =>
    by_cases hcause : cause = .nulInName
    · simp [hnul, hopen, hcause, IsPolicyOrNamed, FileError.not_isNamed_nulInName]
    · simp [hnul, hopen, hcause, IsPolicyOrNamed, FileError.isNamed_unopened hcause]

end Stages

/-- A file gives a policy or is reported by its name if and only if no NUL stands in the name, its
bytes are a text, and the text is not given up for a run of digits that is too long to be read. -/
theorem load_reports_by_name (t : FileTree) (l : Location) :
    IsPolicyOrNamed l (load t l) ↔ l.holdsNul = false ∧
      ∀ bytes, t.open? l = .ok bytes → ∃ s, bytes = Utf8.encode s ∧
        ∀ n, Toml.HasLongNumber n s → Toml.read s ≠ .error (.integerTooLong n) := by
  have hnumber : ∀ s, (∀ n, Toml.read s ≠ .error (.integerTooLong n)) ↔
      ∀ n, Toml.HasLongNumber n s → Toml.read s ≠ .error (.integerTooLong n) := by
    intro s
    constructor
    · intro h n _
      exact h n
    · intro h n hread
      exact h n (Toml.hasLongNumber_of_read hread) hread
  simp only [isPolicyOrNamed_load_iff, isPolicyOrNamed_ofBytes_iff, isPolicyOrNamed_ofText_iff,
    hnumber]

/-- The byte FF begins no character. -/
theorem load_byte_ff_unnamed :
    ∃ e, load (.below [] [(["policy.toml"], .file [0xff])]) ⟨"", ["policy.toml"]⟩ = .error e ∧
      ¬ e.IsNamed ⟨"", ["policy.toml"]⟩ :=
  ⟨.undecodable ⟨0, 0xff, 1, .invalidStart⟩, rfl, FileError.not_isNamed_undecodable _ _⟩

end TableAtlas.Policy
