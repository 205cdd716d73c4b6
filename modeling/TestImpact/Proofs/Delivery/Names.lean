import TestImpact.Delivery.Directory
import TestImpact.Proofs.Files.Parent
import TestImpact.Proofs.Text.Utf8

namespace TestImpact

open Files Text.Utf8

def NameChar (c : Char) : Prop := c.val ≤ 127 ∧ c ≠ '/'

instance (c : Char) : Decidable (NameChar c) := inferInstanceAs (Decidable (_ ∧ _))

theorem nameChar_of_isDigit {c : Char} (digit : c.isDigit) : NameChar c := by
  simp only [Char.isDigit, ge_iff_le, Bool.and_eq_true, decide_eq_true_eq] at digit
  refine ⟨UInt32.le_trans digit.2 (by decide), ?_⟩
  rintro rfl
  exact absurd digit.1 (by decide)

theorem sign_or_digit {n : Int} {c : Char} (member : c ∈ (toString n).toList) :
    c = '-' ∨ c.isDigit := by
  have digit {k : Nat} {c : Char} (member : c ∈ (Nat.repr k).toList) : c.isDigit := by
    rw [Nat.toList_repr] at member
    exact Nat.isDigit_of_mem_toDigits (by decide) (by decide) member
  cases n with
  | ofNat k => exact .inr (digit member)
  | negSucc k =>
    have parts : c ∈ "-".toList ++ (Nat.repr (k + 1)).toList := by
      rw [← String.toList_append]
      exact member
    exact (List.mem_append.mp parts).imp List.mem_singleton.mp digit

theorem nameChar_toString (n : Int) : ∀ c ∈ (toString n).toList, NameChar c := by
  intro c member
  rcases sign_or_digit member with rfl | digit
  · decide
  · exact nameChar_of_isDigit digit

theorem repr_injective {k l : Nat} (same : Nat.repr k = Nat.repr l) : k = l := by
  have digits : Nat.toDigits 10 k = Nat.toDigits 10 l := by simpa using congrArg String.toList same
  have back := congrArg (Nat.ofDigitChars 10 · 0) digits
  simpa [Nat.ofDigitChars_toDigits] using back

theorem not_mem_repr (k : Nat) : '-' ∉ (Nat.repr k).toList := by
  intro member
  rw [Nat.toList_repr] at member
  exact absurd (Nat.isDigit_of_mem_toDigits (by decide) (by decide) member) (by decide)

theorem toString_injective {n m : Int} (same : toString n = toString m) : n = m := by
  have signed (k l : Nat) : Nat.repr k ≠ "-" ++ Nat.repr l := fun same => by
    refine not_mem_repr k ?_
    rw [same, String.toList_append]
    simp
  cases n with
  | ofNat k =>
    cases m with
    | ofNat l => rw [repr_injective same]
    | negSucc l => exact absurd same (signed k (l + 1))
  | negSucc k =>
    cases m with
    | ofNat l => exact absurd same.symm (signed l (k + 1))
    | negSucc l =>
      have parts : "-" ++ Nat.repr (k + 1) = "-" ++ Nat.repr (l + 1) := same
      have digits := repr_injective (String.append_right_inj _ |>.mp parts)
      rw [Nat.succ.inj digits]

def stampedName (stem : String) (epochMillis : Int) (extension : String) : String :=
  s!"{stem}-{epochMillis}.{extension}"

section StampedName

variable {stem extension : String} (epochMillis : Int)

theorem stampedName_eq : stampedName stem epochMillis extension =
    (stem ++ ("-" ++ toString epochMillis)) ++ ("." ++ extension) := by
  simp only [stampedName, String.append_assoc]
  rfl

theorem toList_stampedName :
    (stampedName stem epochMillis extension).toList =
      stem.toList ++ ('-' :: ((toString epochMillis).toList ++ '.' :: extension.toList)) := by
  simp [stampedName_eq]

theorem stampedName_injective {other : Int}
    (same : stampedName stem epochMillis extension = stampedName stem other extension) :
    epochMillis = other := by
  have chars := congrArg String.toList same
  rw [toList_stampedName, toList_stampedName, List.append_cancel_left_eq, List.cons.injEq] at chars
  exact toString_injective (String.toList_inj.mp (List.append_cancel_right chars.2))

theorem nameChar_stampedName (stemChars : stem.toList.all (NameChar ·))
    (extensionChars : extension.toList.all (NameChar ·)) :
    ∀ c ∈ (stampedName stem epochMillis extension).toList, NameChar c := by
  intro c member
  simp only [toList_stampedName, List.mem_append, List.mem_cons] at member
  rcases member with member | rfl | member | rfl | member
  · exact of_decide_eq_true (List.all_eq_true.mp stemChars c member)
  · decide
  · exact nameChar_toString epochMillis c member
  · decide
  · exact of_decide_eq_true (List.all_eq_true.mp extensionChars c member)

theorem proper_stampedName (stemChars : stem.toList.all (NameChar ·))
    (extensionChars : extension.toList.all (NameChar ·)) (named : 2 < stem.toList.length) :
    Proper (encode (stampedName stem epochMillis extension)) := by
  have chars := nameChar_stampedName epochMillis stemChars extensionChars
  have bytes := encode_of_ascii fun c member => (chars c member).1
  have long : 2 < (encode (stampedName stem epochMillis extension)).length := by
    rw [bytes, List.length_map, toList_stampedName, List.length_append]
    omega
  refine ⟨fun member => ?_, ?_, ?_, ?_⟩
  · rw [bytes] at member
    obtain ⟨c, here, same⟩ := List.mem_map.mp member
    obtain ⟨single, other⟩ := chars c here
    have narrow : c.val.toNat ≤ 127 := single
    have code : c.val.toNat % 256 = 47 := by
      rw [← UInt32.toNat_toUInt8, same]
      rfl
    exact other (Char.ext (UInt32.toNat_inj.mp (by show c.val.toNat = 47; omega)))
  all_goals
    intro same
    rw [same] at long
    revert long
    decide

theorem extensionOf_stampedName (last : dot ∉ encode extension) :
    Path.extensionOf (encode (stampedName stem epochMillis extension)) =
      some (encode extension) := by
  have dash : encode "-" = [45] := by decide
  have front : encode (stem ++ ("-" ++ toString epochMillis)) ≠ [] := by
    simp [encode_append, dash]
  rw [stampedName_eq, encode_append, encode_append "."]
  exact Path.extensionOf_append front last

end StampedName

theorem Report.Format.proper_fileName (f : Report.Format) (epochMillis : Int) :
    Proper (encode (f.fileName epochMillis)) :=
  proper_stampedName epochMillis (by cases f <;> decide) (by cases f <;> decide)
    (by cases f <;> decide)

end TestImpact
