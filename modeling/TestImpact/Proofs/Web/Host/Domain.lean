import TestImpact.Proofs.Except
import TestImpact.Proofs.Text.Pieces
import TestImpact.Proofs.Text.Utf8
import TestImpact.Proofs.Web.Host.IPv4
import TestImpact.Proofs.Web.Host.Spelling
import TestImpact.Proofs.Web.Percent

namespace TestImpact.Web

namespace Punycode

theorem threshold_le (k bias : Nat) : threshold k bias ≤ highest := by
  unfold threshold
  split
  · decide
  · split <;> omega

variable {P : Char → Prop} (digits : ∀ d < base, P (digit d))

include digits

theorem forall_writeNumber (bias k n : Nat) : ∀ c ∈ writeNumber bias k n, P c := by
  have low := threshold_le k bias
  fun_induction writeNumber bias k n with
  | case1 k n t last =>
    have small : n < base := by
      simp only [highest, base] at low ⊢
      omega
    exact List.forall_mem_singleton.mpr (digits n small)
  | case2 k n t more ih =>
    have small : t + (n - t) % (base - t) < base := by
      have := Nat.mod_lt (n - t) (y := base - t) (by simp only [highest, base] at low ⊢; omega)
      omega
    exact List.forall_mem_cons.mpr ⟨digits _ small, ih (threshold_le _ bias)⟩

theorem forall_pass (point : Nat) {w : Writer} (done : ∀ c ∈ w.out, P c) (n : Nat) :
    ∀ c ∈ (w.pass point n).out, P c := by
  unfold Writer.pass
  split
  · exact done
  · split
    · simp only [List.forall_mem_append, List.mem_reverse]
      exact ⟨forall_writeNumber digits _ _ _, done⟩
    · exact done

theorem forall_writePoints (points others : List Nat) {w : Writer} (done : ∀ c ∈ w.out, P c)
    (reached : Nat) : ∀ c ∈ writePoints points w reached others, P c := by
  induction others generalizing w reached with
  | nil => simpa [writePoints] using done
  | cons point others ih =>
    have passed (ns : List Nat) {w : Writer} (done : ∀ c ∈ w.out, P c) :
        ∀ c ∈ (ns.foldl (Writer.pass point) w).out, P c := by
      induction ns generalizing w with
      | nil => exact done
      | cons n ns ih => exact ih (forall_pass digits point done n)
    rw [writePoints]
    refine ih ?_ (point + 1)
    exact passed points done

theorem forall_encode {points : List Nat} (hyphen : P '-')
    (plain : ∀ n ∈ points, n < 0x80 → P (Char.ofNat n)) : ∀ c ∈ encode points, P c := by
  have front : ∀ c ∈ (points.filter (· < 0x80)).map Char.ofNat, P c := by
    simp only [List.forall_mem_map, List.mem_filter, decide_eq_true_eq]
    exact fun n member => plain n member.1 member.2
  unfold encode
  refine forall_writePoints digits points _ ?_ _
  simp only [List.mem_reverse]
  split
  · exact List.forall_mem_nil P
  · exact List.forall_mem_append.mpr ⟨front, List.forall_mem_singleton.mpr hyphen⟩

end Punycode

namespace Host

structure IsLabelChar (c : Char) : Prop where
  free : isBarred c = false
  small : IsSmall c.toNat
  dot : c ≠ '.'

structure IsNameChar (c : Char) : Prop where
  ascii : c.toNat < 0x80
  free : isBarred c = false
  small : IsSmall c.toNat

instance (c : Char) : Decidable (IsNameChar c) :=
  decidable_of_iff (c.toNat < 0x80 ∧ isBarred c = false ∧ IsSmall c.toNat)
    ⟨fun ⟨ascii, free, small⟩ => ⟨ascii, free, small⟩,
      fun ⟨ascii, free, small⟩ => ⟨ascii, free, small⟩⟩

theorem isNameChar_digit {d : Nat} (small : d < Punycode.base) :
    IsNameChar (Punycode.digit d) ∧ Punycode.digit d ≠ '.' := by
  have all : ∀ m : Fin 36, IsNameChar (Punycode.digit m) ∧ Punycode.digit m ≠ '.' := by decide
  exact all ⟨d, small⟩

end Host

namespace Domain

open Host

structure Label.Settled (r : Label) : Prop where
  again : Label.read? r.text = some r
  chars : ∀ c ∈ r.text, IsNameChar c ∧ c ≠ '.'

theorem isNameChar_encodedMark : ∀ c ∈ encodedMark, IsNameChar c ∧ c ≠ '.' := by
  have all : encodedMark.all (fun c => IsNameChar c ∧ c ≠ '.') = true := by decide
  exact fun c member => of_decide_eq_true (List.all_eq_true.mp all c member)

theorem read?_encoded (encoded : List Char) :
    Label.read? (encodedMark ++ encoded) = Label.decode? encoded := by
  have marked : encodedMark.isPrefixOf (encodedMark ++ encoded) = true := by
    rw [List.isPrefixOf_iff_prefix]
    exact List.prefix_append _ _
  rw [Label.read?, if_pos marked, List.drop_left]

theorem text_of_decode? {encoded : List Char} {r : Label}
    (decoded : Label.decode? encoded = some r) : r.text = encodedMark ++ encoded := by
  simp only [Label.decode?, Option.bind_eq_bind, Option.bind_eq_some_iff] at decoded
  obtain ⟨points, -, spelt⟩ := decoded
  split at spelt
  · cases spelt
    rfl
  · cases spelt

theorem ascii_of_decode? {encoded : List Char} {r : Label}
    (decoded : Label.decode? encoded = some r) : ∀ c ∈ encoded, c.toNat < 0x80 := by
  simp only [Label.decode?, Option.bind_eq_bind, Option.bind_eq_some_iff] at decoded
  obtain ⟨points, decoded, -⟩ := decoded
  unfold Punycode.decode at decoded
  simp only at decoded
  split at decoded
  · cases decoded
  · rename_i fine
    simpa using (not_or.mp (not_or.mp fine).2).2

theorem settled_of_decode? {encoded : List Char} {r : Label}
    (decoded : Label.decode? encoded = some r)
    (chars : ∀ c ∈ encoded, IsNameChar c ∧ c ≠ '.') : r.Settled where
  again := by rw [text_of_decode? decoded, read?_encoded, decoded]
  chars := by
    rw [text_of_decode? decoded]
    exact List.forall_mem_append.mpr ⟨isNameChar_encodedMark, chars⟩

theorem Label.settled {label : List Char} {r : Label} (read : Label.read? label = some r)
    (spelt : ∀ c ∈ label, IsLabelChar c) : r.Settled := by
  have named {c : Char} (member : c ∈ label) (ascii : c.toNat < 0x80) : IsNameChar c ∧ c ≠ '.' :=
    have own := spelt c member
    ⟨⟨ascii, own.free, own.small⟩, own.dot⟩
  unfold Label.read? at read
  simp only at read
  split at read
  · refine settled_of_decode? read fun c member => ?_
    exact named (List.mem_of_mem_drop member) (ascii_of_decode? read c member)
  · rename_i unmarked
    split at read
    · rename_i ascii
      cases read
      refine ⟨?_, fun c member => named member ?_⟩
      · simp [Label.read?, unmarked, ascii]
      · have all : ∀ c ∈ label, c.toNat < 0x80 := by simpa [isAscii] using ascii
        exact all c member
    · unfold Label.encode? at read
      split at read
      · cases read
      · obtain ⟨decoded, -⟩ := Option.filter_eq_some_iff.mp read
        refine settled_of_decode? decoded ?_
        refine Punycode.forall_encode (P := fun c => IsNameChar c ∧ c ≠ '.')
          (fun d small => isNameChar_digit small) (by decide) ?_
        simp only [List.forall_mem_map, Char.ofNat_toNat]
        exact fun c member ascii => named member ascii

theorem mapM_read?_again {labels : List (List Char)} {read : List Label}
    (each : labels.mapM Label.read? = some read) (spelt : ∀ l ∈ labels, ∀ c ∈ l, IsLabelChar c) :
    (read.map Label.text).mapM Label.read? = some read ∧ ∀ r ∈ read, r.Settled := by
  induction labels generalizing read with
  | nil =>
    cases each
    exact ⟨rfl, nofun⟩
  | cons l labels ih =>
    obtain ⟨first, rest⟩ := List.forall_mem_cons.mp spelt
    simp only [List.mapM_cons, Option.bind_eq_bind, Option.bind_eq_some_iff] at each
    obtain ⟨r, own, more, others, same⟩ := each
    cases same
    have settled := Label.settled own first
    obtain ⟨again, all⟩ := ih others rest
    refine ⟨?_, List.forall_mem_cons.mpr ⟨settled, all⟩⟩
    rw [List.map_cons, List.mapM_cons, settled.again, again]
    rfl

theorem asciiLabels?_again {labels texts : List (List Char)}
    (read : asciiLabels? labels = some texts) (spelt : ∀ l ∈ labels, ∀ c ∈ l, IsLabelChar c) :
    asciiLabels? texts = some texts ∧ ∀ l ∈ texts, ∀ c ∈ l, IsNameChar c ∧ c ≠ '.' := by
  simp only [asciiLabels?, Option.bind_eq_bind, Option.bind_eq_some_iff] at read
  obtain ⟨rs, each, directed⟩ := read
  split at directed
  · rename_i fine
    cases directed
    obtain ⟨again, settled⟩ := mapM_read?_again each spelt
    refine ⟨by simp [asciiLabels?, again, fine], ?_⟩
    simp only [List.forall_mem_map]
    exact fun r member => (settled r member).chars
  · cases directed

theorem spelling_of_small {n : Nat} (ascii : n < 0x80) (small : IsSmall n) : spelling n = [n] := by
  have all : ∀ m : Fin 0x80, IsSmall m → (Char.ofNat m).toLower.toNat = m := by decide
  rw [spelling, if_pos ascii, all ⟨n, ascii⟩ small]

theorem spell_of_small {points : List Nat} (plain : ∀ n ∈ points, n < 0x80 ∧ IsSmall n) :
    spell points = points := by
  have same : points.flatMap spelling = points := by
    induction points with
    | nil => rfl
    | cons n points ih =>
      obtain ⟨first, rest⟩ := List.forall_mem_cons.mp plain
      rw [List.flatMap_cons, spelling_of_small first.1 first.2, ih rest]
      rfl
  have ascii : isAscii points = true := by simpa [isAscii] using fun n member => (plain n member).1
  rw [spell, same, if_pos ascii]

end Domain

namespace Host

theorem IsNameChar.ne_percent {c : Char} (named : IsNameChar c) : c ≠ '%' := by
  rintro rfl
  cases named.free

theorem readDomain_of_named {name : List Char} (named : ∀ c ∈ name, IsNameChar c) :
    readDomain name =
      match Domain.asciiLabels? (split '.' name) with
      | none => .error .badDomain
      | some labels =>
        let name := ['.'].intercalate labels
        if name = [] then .error .emptyHost
        else if endsInNumber name then readIPv4 name
        else .ok name := by
  have plain : '%' ∉ name := fun member => (named _ member).ne_percent rfl
  have decoded : Text.Utf8.decode? (Percent.decode name) = some (String.ofList name) := by
    rw [Percent.decode_of_plain plain, ← Text.Utf8.decode?_encode, Text.Utf8.encode_eq_flatMap,
      String.toList_ofList]
  have spelt : Domain.spell (name.map Char.toNat) = name.map Char.toNat := by
    refine Domain.spell_of_small ?_
    simp only [List.forall_mem_map]
    exact fun c member => ⟨(named c member).ascii, (named c member).small⟩
  have back : (name.map Char.toNat).map Char.ofNat = name := by
    rw [List.map_map]
    exact List.map_id'' (fun c => Char.ofNat_toNat c) name
  have free : name.any isBarred = false := by
    simpa using fun c member => (named c member).free
  rw [readDomain, decoded]
  simp only [String.toList_ofList, spelt, back, free]
  rfl

end Host

end TestImpact.Web
