import TestImpact.Proofs.Text.Units
import TestImpact.Proofs.Web.Host.Known
import TestImpact.Proofs.Web.Requests

namespace TestImpact.Web.Url

structure IsSettled (segment : List Char) : Prop where
  chars : ∀ c ∈ segment, IsPathChar c ∧ c ≠ '/' ∧ c ≠ '\\'
  doubleDot : isDoubleDot segment = false
  singleDot : isSingleDot segment = false

def AllSettled (path : List String) : Prop := ∀ s ∈ path, IsSettled s.toList

/-- A URL of the web as it is after it was read. -/
structure Settled (defaultPort : Nat) (u : Url) : Prop where
  kind : u.kind = .web defaultPort
  username : ∀ c ∈ u.username.toList, Percent.isKept Percent.userinfo c = true
  password : ∀ c ∈ u.password.toList, Percent.isKept Percent.userinfo c = true
  host : ∃ host, u.host = some (String.ofList host) ∧ Host.IsKnown host
  port : ∀ p, u.port = some p → p ≤ 65535 ∧ p ≠ defaultPort
  apart : u.isApart = false
  filled : u.path ≠ []
  path : AllSettled u.path
  query : ∀ q, u.query = some q → ∀ c ∈ q.toList, Percent.isKept Percent.webQuery c = true
  fragment : ∀ f, u.fragment = some f → ∀ c ∈ f.toList, Percent.isKept Percent.fragment c = true

section Segments

theorem isSettled_nil : IsSettled [] := ⟨List.forall_mem_nil _, by decide, by decide⟩

theorem utf8EncodeChar_cons (c : Char) : ∃ b more, String.utf8EncodeChar c = b :: more ∧
    (b = 46 → c = '.') := by
  have units := Text.Utf8.units_encode (String.ofList [c])
  rw [Text.Utf8.encode_eq_flatMap, String.toList_ofList, List.flatMap_singleton] at units
  cases bytes : String.utf8EncodeChar c with
  | nil =>
    rw [bytes, Text.Utf8.units] at units
    cases units
  | cons b more =>
    refine ⟨b, more, rfl, ?_⟩
    rintro rfl
    rw [bytes] at units
    simp [Text.Utf8.units, Text.Utf8.head, Text.Utf8.announced, Text.Utf8.follow,
      Text.Utf8.leadBits] at units
    exact units.1.symm

def steps : List String := ["..", "%2e%2e", ".%2e", "%2e.", ".", "%2e"]

theorem steps_spelled : ∀ d ∈ steps, ∀ i < d.toList.length, d.toList[i]? = some '%' →
    d.toList[i + 1]? = some '2' ∧ d.toList[i + 2]? = some 'e' := by
  decide

theorem eq_dot_of_hexDigits {b : UInt8} (high : (Percent.hexDigit (b.toNat / 16)).toLower = '2')
    (low : (Percent.hexDigit b.toNat).toLower = 'e') : b = 46 := by
  have digit : ∀ m : Fin 16, ((Percent.hexDigit m).toLower = '2' → m.val = 2) ∧
      ((Percent.hexDigit m).toLower = 'e' → m.val = 14) := by
    decide
  have bound : b.toNat < 256 := b.toNat_lt
  have first : b.toNat / 16 = 2 := (digit ⟨b.toNat / 16, by omega⟩).1 high
  rw [← Percent.hexDigit_mod] at low
  have second : b.toNat % 16 = 14 := (digit ⟨b.toNat % 16, by omega⟩).2 low
  have value : b.toNat = 46 := by omega
  exact UInt8.toNat_inj.mp value

/-- No dot is percent-encoded, so that what is encoded is a step only if it was one before. -/
theorem encode_of_step {cs : List Char}
    (step : String.ofList ((Percent.encode Percent.path cs).map Char.toLower) ∈ steps) :
    Percent.encode Percent.path cs = cs := by
  refine Percent.encode_of_kept fun c member => ?_
  cases kept : Percent.isKept Percent.path c with
  | true => rfl
  | false =>
    -- The first byte of what is encoded would have to be spelt as one of a step, which is a dot.
    obtain ⟨b, more, bytes, dot⟩ := utf8EncodeChar_cons c
    obtain ⟨front, back, rfl⟩ := List.append_of_mem member
    have coded : Percent.encodeChar Percent.path c =
        Percent.encodeByte b ++ more.flatMap Percent.encodeByte := by
      rw [Percent.encodeChar, if_neg (by simp [kept]), bytes, List.flatMap_cons]
    let before := (Percent.encode Percent.path front).map Char.toLower
    let behind := more.flatMap Percent.encodeByte ++ Percent.encode Percent.path back
    have split : (Percent.encode Percent.path (front ++ c :: back)).map Char.toLower =
        before ++ '%' :: (Percent.hexDigit (b.toNat / 16)).toLower ::
          (Percent.hexDigit b.toNat).toLower :: behind.map Char.toLower := by
      simp [before, behind, Percent.encode, coded, Percent.encodeByte]
    have spelled := steps_spelled _ step before.length
    rw [String.toList_ofList, split] at spelled
    simp at spelled
    have same := dot (eq_dot_of_hexDigits spelled.1 spelled.2)
    rw [same] at kept
    cases kept

theorem isSettled_encode {segment : List Char} (whole : ∀ c ∈ segment, c ≠ '/' ∧ c ≠ '\\')
    (double : isDoubleDot segment = false) (single : isSingleDot segment = false) :
    IsSettled (Percent.encode Percent.path segment) where
  chars c member := by
    refine ⟨isPathChar_of_mem_encode (List.Subset.refl _) c member, ?_⟩
    rcases Percent.of_mem_encode member with own | rfl | plain
    · exact whole c own
    · decide
    · constructor <;>
      · rintro rfl
        cases plain
  doubleDot := by
    refine Bool.eq_false_iff.mpr fun dots => ?_
    have listed := List.contains_iff_mem.mp dots
    have step : ["..", "%2e%2e", ".%2e", "%2e."] ⊆ steps := by decide
    rw [encode_of_step (step listed), double] at dots
    cases dots
  singleDot := by
    refine Bool.eq_false_iff.mpr fun dots => ?_
    have listed := List.contains_iff_mem.mp dots
    have step : [".", "%2e"] ⊆ steps := by decide
    rw [encode_of_step (step listed), single] at dots
    cases dots

variable {k : SchemeKind} {trail : Trail}

theorem allSettled_append {path more : List String} (first : AllSettled path)
    (second : AllSettled more) : AllSettled (path ++ more) :=
  List.forall_mem_append.mpr ⟨first, second⟩

theorem allSettled_empty : AllSettled [""] := List.forall_mem_singleton.mpr isSettled_nil

theorem allSettled_stepBack {path : List String} (settled : AllSettled path) :
    AllSettled (stepBack path) := by
  unfold stepBack
  split
  · exact settled
  · exact fun s member => settled s (List.dropLast_subset path member)

theorem Trail.settled_add (other : k ≠ .file) (isLast : Bool) {written : List Char}
    (whole : ∀ c ∈ written, c ≠ '/' ∧ c ≠ '\\') (settled : AllSettled trail.segments) :
    AllSettled (trail.add k isLast written).segments ∧
      (isLast = true → (trail.add k isLast written).segments ≠ []) := by
  have first : (decide (k = .file) && trail.segments.isEmpty) = false := by simp [other]
  have leave : AllSettled (if isLast then [""] else []) := by
    split
    · exact allSettled_empty
    · exact nofun
  unfold Trail.add
  simp only [first, Bool.false_eq_true, if_false, Bool.false_and]
  split
  · exact ⟨allSettled_append (allSettled_stepBack settled) leave, fun last => by simp [last]⟩
  · rename_i double
    split
    · exact ⟨allSettled_append settled leave, fun last => by simp [last]⟩
    · rename_i single
      refine ⟨allSettled_append settled (List.forall_mem_singleton.mpr ?_), fun _ => by simp⟩
      rw [String.toList_ofList]
      refine isSettled_encode (fun c member => ?_) (Bool.eq_false_iff.mpr double)
        (Bool.eq_false_iff.mpr single)
      exact whole c (List.mem_filter.mp member).1

theorem Trail.settled_walk (other : k ≠ .file) {pieces : List (List Char)}
    (whole : ∀ w ∈ pieces, ∀ c ∈ w, c ≠ '/' ∧ c ≠ '\\') (settled : AllSettled trail.segments) :
    AllSettled (trail.walk k pieces).segments ∧
      (pieces ≠ [] → (trail.walk k pieces).segments ≠ []) := by
  induction pieces generalizing trail with
  | nil => exact ⟨settled, fun filled => absurd rfl filled⟩
  | cons w pieces ih =>
    obtain ⟨here, rest⟩ := List.forall_mem_cons.mp whole
    obtain ⟨added, last⟩ := Trail.settled_add other pieces.isEmpty here settled
    rw [Trail.walk]
    refine ⟨(ih rest added).1, fun _ => ?_⟩
    -- A step in front may leave nothing behind, but not the last one.
    cases pieces with
    | nil => exact last rfl
    | cons w pieces => exact (ih rest added).2 nofun

theorem settled_readSegments (port : Nat) (cs : List Char) :
    AllSettled (readSegments (.web port) cs).segments ∧
      (readSegments (.web port) cs).segments ≠ [] := by
  have other : SchemeKind.web port ≠ .file := by simp
  have whole : ∀ w ∈ cs.splitOnP (isSlash (.web port)), ∀ c ∈ w, c ≠ '/' ∧ c ≠ '\\' := by
    intro w member c within
    have apart := (Text.of_mem_splitOnP member c within).1
    constructor <;>
    · rintro rfl
      simp [isSlash, SchemeKind.isSpecial] at apart
  have start : AllSettled ({} : Trail).segments := nofun
  have walked := Trail.settled_walk other whole start
  simp only [readSegments, other, if_false]
  exact ⟨walked.1, walked.2 (List.splitOnP_ne_nil _ _)⟩

theorem isDropped_of_lt {c : Char} (ink : 0x20 < c.toNat) : isDropped c = false := by
  simp only [isDropped, Bool.or_eq_false_iff, decide_eq_false_iff_not]
  refine ⟨⟨?_, ?_⟩, ?_⟩ <;>
  · rintro rfl
    revert ink
    decide

/-- Nothing is dropped from a text of no blanks and controls. -/
def Inked (cs : List Char) : Prop := ∀ c ∈ cs, 0x20 < c.toNat

instance (cs : List Char) : Decidable (Inked cs) := List.decidableBAll _ cs

theorem kept_of_inked {cs : List Char} (inked : Inked cs) : kept cs = cs :=
  List.filter_eq_self.mpr fun c member => by simp [isDropped_of_lt (inked c member)]

theorem Trail.walk_settled (other : k ≠ .file) {path : List String} (settled : AllSettled path) :
    (trail.walk k (path.map String.toList)).segments = trail.segments ++ path := by
  induction path generalizing trail with
  | nil => simp [Trail.walk]
  | cons s path ih =>
    obtain ⟨here, rest⟩ := List.forall_mem_cons.mp settled
    have first : (decide (k = .file) && trail.segments.isEmpty) = false := by simp [other]
    have same : kept s.toList = s.toList :=
      kept_of_inked fun c member => Percent.lt_of_isKept (by decide) (here.chars c member).1
    have encoded : Percent.encode Percent.path s.toList = s.toList :=
      Percent.encode_of_kept fun c member => (here.chars c member).1
    have added (isLast : Bool) :
        (trail.add k isLast s.toList).segments = trail.segments ++ [s] := by
      simp [Trail.add, first, same, here.doubleDot, here.singleDot, encoded]
    rw [List.map_cons, Trail.walk, ih rest, added]
    simp

end Segments

section Reading

variable {port : Nat}

theorem isOpen_userinfo : Percent.IsOpen Percent.userinfo := by decide

theorem isOpen_webQuery : Percent.IsOpen Percent.webQuery := by decide

theorem isOpen_fragment : Percent.IsOpen Percent.fragment := by decide

theorem isKept_encode {set : Percent.EncodeSet} (bare : Percent.IsOpen set) (cs : List Char) :
    ∀ c ∈ (String.ofList (Percent.encode set cs)).toList, Percent.isKept set c = true := by
  rw [String.toList_ofList]
  exact Percent.isKept_of_mem_encode bare (List.Subset.refl _)

theorem readPort_range {cs behind : List Char} {p : Nat}
    (read : readPort (.web port) cs = .ok (some p, behind)) : p ≤ 65535 ∧ p ≠ port := by
  unfold readPort at read
  split at read
  · simp only [SchemeKind.defaultPort] at read
    split at read
    · cases read
    · rename_i fits
      have found := congrArg Prod.fst (Except.ok.inj read)
      simp only [Option.ite_none_left_eq_some, not_or, Option.some.injEq] at found fits
      obtain ⟨⟨-, other⟩, rfl⟩ := found
      exact ⟨Nat.le_of_not_lt fits.1, other⟩
  · cases read

theorem settled_readPath {u : Url} (bare : Settled port { u with path := [""] }) (cs : List Char) :
    Settled port (readPath (.web port) u cs) where
  kind := bare.kind
  username := bare.username
  password := bare.password
  host := bare.host
  port := bare.port
  apart := bare.apart
  filled := by
    show (if (splitParts cs).path.isEmpty then _ else _) ≠ []
    split
    · exact nofun
    · exact (settled_readSegments port _).2
  path := by
    show AllSettled (if (splitParts cs).path.isEmpty then _ else _)
    split
    · exact allSettled_empty
    · exact (settled_readSegments port _).1
  query := by
    intro q given
    obtain ⟨written, -, rfl⟩ := Option.map_eq_some_iff.mp given
    exact isKept_encode isOpen_webQuery written
  fragment := by
    intro f given
    obtain ⟨written, -, rfl⟩ := Option.map_eq_some_iff.mp given
    exact isKept_encode isOpen_fragment written

theorem settled_readAuthority {scheme : String} (kind : SchemeKind.of scheme = .web port)
    {cs : List Char} {u : Url} (read : readAuthority (.web port) scheme cs = .ok u) :
    Settled port u := by
  unfold readAuthority at read
  simp only [SchemeKind.isSpecial, ne_eq, reduceCtorEq, not_false_eq_true, decide_true,
    if_true] at read
  split at read
  · cases read
  · split at read
    · cases read
    · obtain ⟨host, known, read⟩ := bind_eq_ok.mp read
      obtain ⟨⟨p, behind⟩, ported, read⟩ := bind_eq_ok.mp read
      split at read
      · cases read
      · cases read
        refine settled_readPath ?_ _
        refine {
          kind := kind
          username := isKept_encode isOpen_userinfo _
          password := isKept_encode isOpen_userinfo _
          host := ⟨host, rfl, Host.isKnown_of_readKnown known⟩
          port := ?_
          apart := rfl
          filled := nofun
          path := allSettled_empty
          query := nofun
          fragment := nofun }
        rintro p' rfl
        exact readPort_range ported

theorem readFile_scheme {scheme : String} {cs : List Char} {u : Url}
    (read : readFile scheme cs = .ok u) : u.scheme = scheme := by
  unfold readFile readFileBehindSlashes at read
  simp only at read
  repeat' split at read
  all_goals try (cases read; rfl)
  all_goals
    obtain ⟨host, -, read⟩ := bind_eq_ok.mp read
    split at read
    all_goals
      cases read
      rfl

/-- What a text of the web is read as is settled. -/
theorem settled_read {text : String} {u : Url} (read : Url.read text = .ok (.hierarchical u))
    (kind : u.kind = .web port) : Settled port u := by
  unfold Url.read at read
  split at read
  · cases read
  · rename_i scheme rest _
    split at read
    · rename_i port' named
      have inner := eq_ok_of_map read
      have same : SchemeKind.web port' = .web port :=
        named.symm.trans ((congrArg SchemeKind.of (readAuthority_scheme inner)).symm.trans kind)
      cases same
      exact settled_readAuthority named inner
    · rename_i named
      have same := congrArg SchemeKind.of (readFile_scheme (eq_ok_of_map read))
      exact absurd (named.symm.trans (same.symm.trans kind)) nofun
    · rename_i named
      have same := congrArg SchemeKind.of (readOther_scheme read)
      exact absurd (named.symm.trans (same.symm.trans kind)) nofun

end Reading

end TestImpact.Web.Url
