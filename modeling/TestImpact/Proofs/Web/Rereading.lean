import Mathlib.Data.List.TakeWhile
import TestImpact.Proofs.Web.Settled

namespace TestImpact.Web.Url

variable {port : Nat} {u : Url}

theorem Settled.escaped (settled : Settled port u) : Escaped u.path := fun s own c within =>
  ((settled.path s own).chars c within).1

theorem stripped_of_inked {cs : List Char} (inked : Inked cs) : stripped cs = cs := by
  have strip {ds : List Char} (inked : Inked ds) : ds.dropWhile isControlOrSpace = ds := by
    cases ds with
    | nil => rfl
    | cons c ds =>
      have first := inked c List.mem_cons_self
      exact List.dropWhile_cons_of_neg (by simpa [isControlOrSpace] using first)
  have back : Inked cs.reverse := fun c member => inked c (List.mem_reverse.mp member)
  rw [stripped, strip inked, strip back, List.reverse_reverse]

section Scheme

theorem scheme_mem {scheme : String} (web : SchemeKind.of scheme = .web port) :
    scheme ∈ ["http", "ws", "https", "wss", "ftp"] := by
  unfold SchemeKind.of at web
  split at web
  · rename_i named
    rcases named with rfl | rfl <;> decide
  split at web
  · rename_i named
    rcases named with rfl | rfl <;> decide
  split at web
  · rename_i named
    rw [named]
    decide
  split at web
  · cases web
  · cases web

theorem readScheme_web {scheme : String} (web : SchemeKind.of scheme = .web port)
    (rest : List Char) : readScheme (scheme.toList ++ ':' :: rest) = some (scheme, rest) := by
  have spelt : ∀ s ∈ ["http", "ws", "https", "wss", "ftp"], ':' ∉ s.toList ∧
      kept s.toList = s.toList ∧ s.toList.all isSchemeChar = true ∧
      (∃ c, s.toList.head? = some c ∧ c.isAlpha = true) ∧
      String.ofList (s.toList.map Char.toLower) = s := by
    simp only [List.forall_mem_cons, List.not_mem_nil, false_imp_iff, implies_true, and_true]
    refine ⟨?_, ?_, ?_, ?_, ?_⟩
    all_goals exact ⟨by decide, by decide, by decide, ⟨_, rfl, by decide⟩, by decide⟩
  obtain ⟨colon, same, chars, ⟨c, head, letter⟩, lower⟩ := spelt scheme (scheme_mem web)
  simp only [readScheme, Text.takeWhile_append_cons colon, Text.dropWhile_append_cons colon, same,
    head, letter, chars, lower, Bool.and_self, if_true]

end Scheme

section Place

theorem isPlaceChar_of_userinfo {c : Char} (kept : Percent.isKept Percent.userinfo c = true) :
    Host.IsPlaceChar c ∧ c ≠ ':' := by
  have other {d : Char} (escaped : d ∈ Percent.userinfo) : c ≠ d :=
    Percent.ne_of_isKept escaped kept
  have apart : c ∉ ['/', '\\', '?', '#', '@'] := by
    have all : ['/', '\\', '?', '#', '@'] ⊆ Percent.userinfo := by decide
    exact fun member => other (all member) rfl
  exact ⟨⟨Percent.lt_of_isKept (by decide) kept, apart⟩, other (by decide)⟩

theorem endsAuthority_of_isPlaceChar {c : Char} (plain : Host.IsPlaceChar c) :
    endsAuthority (.web port) c = false := by
  have apart := plain.2
  simp only [List.mem_cons, not_or] at apart
  simp [endsAuthority, isSlash, apart]

theorem splitUser_append (user : List Char) {place : List Char}
    (plain : ∀ c ∈ place, Host.IsPlaceChar c) :
    splitUser (user ++ '@' :: place) = some (user, place) := by
  have last : '@' ∉ place := fun member => absurd (plain '@' member) (by decide)
  have count : (user ++ '@' :: place).length - place.length - 1 = user.length := by
    rw [List.length_append, List.length_cons]
    omega
  simp only [splitUser, Text.behind_last user last, count, List.take_left]
  simp

theorem splitUser_none {place : List Char} (plain : ∀ c ∈ place, Host.IsPlaceChar c) :
    splitUser place = none := by
  have absent : '@' ∉ place := fun member => absurd (plain '@' member) (by decide)
  simp [splitUser, absent]

theorem splitUser_text (settled : Settled port u) {place : List Char}
    (plain : ∀ c ∈ place, Host.IsPlaceChar c) :
    ∃ user, (splitUser (u.userText.toList ++ place)).getD ([], u.userText.toList ++ place) =
        (user, place) ∧
      user.takeWhile (· ≠ ':') = u.username.toList ∧
      (user.dropWhile (· ≠ ':')).drop 1 = u.password.toList := by
  have colon : ':' ∉ u.username.toList := fun member =>
    (isPlaceChar_of_userinfo (settled.username _ member)).2 rfl
  have signs : "@".toList = ['@'] ∧ ":".toList = [':'] := ⟨rfl, rfl⟩
  unfold userText
  split
  · rename_i none
    refine ⟨[], ?_, ?_, ?_⟩
    · simp [splitUser_none plain]
    · simp [none.1]
    · simp [none.2]
  split
  · rename_i none
    refine ⟨u.username.toList, ?_, ?_, ?_⟩
    · rw [String.toList_append, signs.1, List.append_assoc, List.singleton_append,
        splitUser_append _ plain]
      rfl
    · exact List.takeWhile_eq_self_iff.mpr (Text.passes_of_not_mem colon)
    · rw [List.dropWhile_eq_nil_iff.mpr (Text.passes_of_not_mem colon), none]
      rfl
  · refine ⟨u.username.toList ++ ':' :: u.password.toList, ?_, ?_, ?_⟩
    · simp only [String.toList_append, signs, List.append_assoc, List.singleton_append]
      rw [← List.append_assoc, splitUser_append _ plain]
      rfl
    · exact Text.takeWhile_append_cons colon _
    · rw [Text.dropWhile_append_cons colon]
      rfl

theorem portText_none (none : u.port = none) : u.portText.toList = [] := by
  rw [portText, none]
  rfl

theorem portText_some {p : Nat} (given : u.port = some p) :
    u.portText.toList = ':' :: Nat.toDigits 10 p := by
  simp only [portText, given, String.toList_append, Nat.toString_eq_repr, Nat.toList_repr]
  rfl

theorem mem_userText {c : Char} (settled : Settled port u) (member : c ∈ u.userText.toList) :
    Host.IsPlaceChar c ∨ c = '@' := by
  have signs : "@".toList = ['@'] ∧ ":".toList = [':'] := ⟨rfl, rfl⟩
  have name : ∀ c ∈ u.username.toList, Host.IsPlaceChar c := fun c own =>
    (isPlaceChar_of_userinfo (settled.username c own)).1
  have word : ∀ c ∈ u.password.toList, Host.IsPlaceChar c := fun c own =>
    (isPlaceChar_of_userinfo (settled.password c own)).1
  have colon : Host.IsPlaceChar ':' := by decide
  unfold userText at member
  split at member
  · cases member
  split at member
  · simp only [String.toList_append, signs, List.mem_append, List.mem_singleton] at member
    exact member.imp_left (name c)
  · simp only [String.toList_append, signs, List.mem_append, List.mem_singleton] at member
    rcases member with ((own | rfl) | own) | sign
    · exact .inl (name c own)
    · exact .inl colon
    · exact .inl (word c own)
    · exact .inr sign

theorem head_portText (u : Url) : u.portText.toList = [] ∨ u.portText.toList.head? = some ':' := by
  cases given : u.port with
  | none => exact .inl (portText_none given)
  | some p => simp [portText_some given]

theorem isPlaceChar_portText {c : Char} (member : c ∈ u.portText.toList) :
    Host.IsPlaceChar c := by
  cases given : u.port with
  | none =>
    rw [portText_none given] at member
    cases member
  | some p =>
    rw [portText_some given] at member
    rcases List.mem_cons.mp member with rfl | digit
    · decide
    · exact (Host.isNameChar_of_isDigit
        (Nat.isDigit_of_mem_toDigits (by decide) (by decide) digit)).isPlaceChar.1

def placeText (u : Url) (host : List Char) : List Char :=
  u.userText.toList ++ (host ++ u.portText.toList)

variable {host : List Char}

theorem isPlaceChar_host (known : Host.IsKnown host) :
    ∀ c ∈ host ++ u.portText.toList, Host.IsPlaceChar c := fun c member =>
  (List.mem_append.mp member).elim (known.chars c) isPlaceChar_portText

theorem mem_placeText {c : Char} (settled : Settled port u) (known : Host.IsKnown host)
    (member : c ∈ u.placeText host) : Host.IsPlaceChar c ∨ c = '@' :=
  (List.mem_append.mp member).elim (mem_userText settled)
    fun place => .inl (isPlaceChar_host known c place)

theorem endsAuthority_placeText {c : Char} (settled : Settled port u) (known : Host.IsKnown host)
    (member : c ∈ u.placeText host) : endsAuthority (.web port) c = false := by
  rcases mem_placeText settled known member with plain | rfl
  · exact endsAuthority_of_isPlaceChar plain
  · simp [endsAuthority, isSlash]

theorem dropWhile_slashes (settled : Settled port u) (known : Host.IsKnown host)
    (rest : List Char) :
    ('/' :: '/' :: (u.placeText host ++ rest)).dropWhile (isSlash (.web port)) =
      u.placeText host ++ rest := by
  have slashes : ∀ c ∈ ['/', '/'], isSlash (.web port) c = true := by simp [isSlash]
  refine Text.dropWhile_append_of_head slashes fun c first => ?_
  have filled : u.placeText host ≠ [] := by simp [placeText, known.filled]
  obtain ⟨d, more, same⟩ := List.exists_cons_of_ne_nil filled
  have here : c = d := by simpa [same] using first.symm
  have apart := endsAuthority_placeText settled known (same ▸ List.mem_cons_self : d ∈ _)
  simp only [endsAuthority, Bool.or_eq_false_iff] at apart
  exact here ▸ apart.1.1

theorem readPort_text (settled : Settled port u) :
    readPort (.web port) u.portText.toList = .ok (u.port, []) := by
  cases given : u.port with
  | none =>
    rw [portText_none given]
    rfl
  | some p =>
    obtain ⟨fits, other⟩ := settled.port p given
    have digits : ∀ c ∈ Nat.toDigits 10 p, c.isDigit = true := fun c member =>
      Nat.isDigit_of_mem_toDigits (by decide) (by decide) member
    have value : Host.valueIn 10 (Nat.toDigits 10 p) = p :=
      Host.valueIn_toDigits (by decide) (by decide) p
    simp only [portText_some given, readPort, List.takeWhile_eq_self_iff.mpr digits,
      List.dropWhile_eq_nil_iff.mpr digits, value]
    simp [Nat.not_lt.mpr fits, SchemeKind.defaultPort, other]

end Place

section Path

theorem isSlash_web {c : Char} : isSlash (.web port) c = true ↔ c = '/' ∨ c = '\\' := by
  simp [isSlash, SchemeKind.isSpecial]

theorem splitOnP_written {s : String} {path : List String} (settled : AllSettled (s :: path)) :
    (s.toList ++ written path).splitOnP (isSlash (.web port)) = (s :: path).map String.toList := by
  have whole {t : String} (own : IsSettled t.toList) :
      t.toList.splitOnP (isSlash (.web port)) = [t.toList] := by
    refine List.splitOnP_eq_singleton fun c member => Bool.eq_false_iff.mpr fun slash => ?_
    obtain ⟨-, forward, backward⟩ := own.chars c member
    exact (isSlash_web.mp slash).elim forward backward
  induction path generalizing s with
  | nil =>
    rw [written, List.flatMap_nil, List.append_nil]
    exact whole (settled s List.mem_cons_self)
  | cons t path ih =>
    obtain ⟨first, rest⟩ := List.forall_mem_cons.mp settled
    have text : s.toList ++ written (t :: path) =
        s.toList ++ '/' :: (t.toList ++ written path) := by
      simp [written]
    rw [text, List.splitOnP_append_cons _ _ (isSlash_web.mpr (.inl rfl)), whole first, ih rest]
    rfl

theorem readSegments_written {path : List String} (settled : AllSettled path) (filled : path ≠ []) :
    (readSegments (.web port) (dropSlash (.web port) (written path))).segments = path := by
  obtain ⟨s, path, rfl⟩ := List.exists_cons_of_ne_nil filled
  have text : dropSlash (.web port) (written (s :: path)) = s.toList ++ written path := by
    simp [dropSlash, written, isDropped, isSlash]
  have other : SchemeKind.web port ≠ .file := by simp
  simp only [readSegments, if_neg other, text, splitOnP_written settled,
    Trail.walk_settled other settled, List.nil_append]

end Path

section Parts

theorem splitParts_append {path tail : List Char} (plain : ∀ c ∈ path, c ≠ '?' ∧ c ≠ '#')
    (stop : tail = [] ∨ tail.head? = some '?' ∨ tail.head? = some '#') :
    splitParts (path ++ tail) = { splitParts tail with path := path } := by
  have all : ∀ c ∈ path, (c ≠ '?' && c ≠ '#') = true := fun c member => by simp [plain c member]
  have stops : ∀ c ∈ tail.head?, (c ≠ '?' && c ≠ '#') = false := by
    intro c first
    rcases stop with rfl | head | head
    · cases first
    · simp [Option.some.inj (first.symm.trans head)]
    · simp [Option.some.inj (first.symm.trans head)]
  have nothing : ∀ c ∈ ([] : List Char), (c ≠ '?' && c ≠ '#') = true := List.forall_mem_nil _
  have none : tail.dropWhile (fun c => c ≠ '?' && c ≠ '#') = tail :=
    Text.dropWhile_append_of_head nothing stops
  simp only [splitParts, Text.takeWhile_append_of_head all stops,
    Text.dropWhile_append_of_head all stops, none]

def tailText (u : Url) : List Char := (behind "?" u.query ++ behind "#" u.fragment).toList

theorem head_tailText (u : Url) :
    u.tailText = [] ∨ u.tailText.head? = some '?' ∨ u.tailText.head? = some '#' := by
  have signs : "?".toList = ['?'] ∧ "#".toList = ['#'] := ⟨rfl, rfl⟩
  unfold tailText
  cases u.query <;> cases u.fragment <;> simp [behind, signs]

theorem splitParts_fragment (fragment : Option String) :
    splitParts (behind "#" fragment).toList = ⟨[], none, fragment.map (kept ·.toList)⟩ := by
  have sign : "#".toList = ['#'] := rfl
  cases fragment with
  | none => rfl
  | some f => simp [splitParts, behind, sign]

theorem splitParts_query {q : List Char} (hash : '#' ∉ q) (fragment : Option String) :
    splitParts ('?' :: (q ++ (behind "#" fragment).toList)) =
      ⟨[], some (kept q), fragment.map (kept ·.toList)⟩ := by
  have sign : "#".toList = ['#'] := rfl
  have stop : ∀ c ∈ (behind "#" fragment).toList.head?, decide (c ≠ '#') = false := by
    cases fragment <;> simp [behind, sign]
  have all := Text.passes_of_not_mem hash
  have behind_mark : ∀ c ∈ '?' :: q, decide (c ≠ '#') = true :=
    List.forall_mem_cons.mpr ⟨by decide, all⟩
  have rest := Text.dropWhile_append_of_head behind_mark stop
  have front := Text.takeWhile_append_of_head all stop
  have none (more : List Char) : ('?' :: more).takeWhile (fun c => c ≠ '?' && c ≠ '#') = [] := rfl
  have whole (more : List Char) :
      ('?' :: more).dropWhile (fun c => c ≠ '?' && c ≠ '#') = '?' :: more := rfl
  rw [List.cons_append] at rest
  simp only [splitParts, none, whole, front, rest]
  cases fragment <;> simp [behind, sign]

theorem splitParts_tailText (settled : Settled port u) :
    splitParts u.tailText = ⟨[], u.query.map String.toList, u.fragment.map String.toList⟩ := by
  have sign : "?".toList = ['?'] := rfl
  have fragment : u.fragment.map (kept ·.toList) = u.fragment.map String.toList :=
    Option.map_congr fun f given => kept_of_inked fun c member =>
      Percent.lt_of_isKept (by decide) (settled.fragment f given c member)
  unfold tailText
  cases query : u.query with
  | none =>
    have text : (behind "?" none ++ behind "#" u.fragment).toList =
        (behind "#" u.fragment).toList := by
      simp [behind]
    rw [text, splitParts_fragment, fragment]
    rfl
  | some q =>
    have own := settled.query q query
    have same : kept q.toList = q.toList :=
      kept_of_inked fun c member => Percent.lt_of_isKept (by decide) (own c member)
    have hash : '#' ∉ q.toList := fun member => Percent.ne_of_isKept (by decide) (own _ member) rfl
    have text : (behind "?" (some q) ++ behind "#" u.fragment).toList =
        '?' :: (q.toList ++ (behind "#" u.fragment).toList) := by
      simp [behind, sign]
    rw [text, splitParts_query hash, same, fragment]
    rfl

theorem readPath_text (settled : Settled port u) {v : Url}
    (same : { v with path := u.path, query := u.query, fragment := u.fragment } = u) :
    readPath (.web port) v (written u.path ++ u.tailText) = u := by
  have plain : ∀ c ∈ written u.path, c ≠ '?' ∧ c ≠ '#' := by
    intro c member
    have own := isPathChar_written settled.escaped c member
    exact ⟨Percent.ne_of_isKept (by decide) own, Percent.ne_of_isKept (by decide) own⟩
  have filled : (written u.path).isEmpty = false := by
    obtain ⟨s, path, same⟩ := List.exists_cons_of_ne_nil settled.filled
    rw [same]
    rfl
  have encoded {set : Percent.EncodeSet} {part : Option String}
      (own : ∀ s, part = some s → ∀ c ∈ s.toList, Percent.isKept set c = true) :
      (part.map String.toList).map (fun cs => String.ofList (Percent.encode set cs)) = part := by
    cases part with
    | none => rfl
    | some s => simp [Percent.encode_of_kept (own s rfl)]
  have query := encoded settled.query
  have fragment := encoded settled.fragment
  simp only [readPath, withTail, splitParts_append plain u.head_tailText,
    splitParts_tailText settled, filled, Bool.false_eq_true, if_false,
    readSegments_written settled.path settled.filled, SchemeKind.isSpecial, ne_eq, reduceCtorEq,
    not_false_eq_true, decide_true, if_true, query, fragment]
  exact same

end Parts

theorem fields_eq (settled : Settled port u) {host : List Char}
    (named : u.host = some (String.ofList host)) :
    ({ scheme := u.scheme, username := u.username, password := u.password,
        host := some (String.ofList host), port := u.port, path := u.path, query := u.query,
        fragment := u.fragment } : Url) = u := by
  have apart := settled.apart
  cases u
  simp only at named apart
  subst named apart
  rfl

theorem readAuthority_text (settled : Settled port u) {host : List Char}
    (named : u.host = some (String.ofList host)) (known : Host.IsKnown host) :
    readAuthority (.web port) u.scheme (u.placeText host ++ (written u.path ++ u.tailText)) =
      .ok u := by
  have inside : ∀ c ∈ u.placeText host, (!endsAuthority (.web port) c) = true := fun c member => by
    simp [endsAuthority_placeText settled known member]
  have stop : ∀ c ∈ (written u.path ++ u.tailText).head?,
      (!endsAuthority (.web port) c) = false := by
    obtain ⟨s, path, same⟩ := List.exists_cons_of_ne_nil settled.filled
    simp [same, written, endsAuthority, isSlash]
  obtain ⟨user, split, name, password⟩ := splitUser_text settled (isPlaceChar_host (u := u) known)
  have filled : host ++ u.portText.toList ≠ [] := List.append_ne_nil_of_left_ne_nil known.filled _
  have parted := known.port u.portText.toList u.head_portText
  -- The path parts the place from the rest; then each part of the place is read for itself.
  unfold readAuthority
  simp only [Text.takeWhile_append_of_head inside stop, Text.dropWhile_append_of_head inside stop]
  unfold placeText
  simp only [split, name, password, Percent.encode_of_kept settled.username,
    Percent.encode_of_kept settled.password, parted, filled, known.filled, known.again,
    readPort_text settled, SchemeKind.isSpecial, ne_eq, reduceCtorEq, not_false_eq_true,
    decide_true, if_true, false_and, and_false, if_false, bind, Except.bind, pure, Except.pure,
    List.nil_append, String.ofList_toList]
  rw [readPath_text settled (fields_eq settled named)]

theorem toList_text {host : List Char} (named : u.host = some (String.ofList host)) :
    u.text.toList = u.scheme.toList ++ ':' :: '/' :: '/' ::
      (u.placeText host ++ (written u.path ++ u.tailText)) := by
  have signs : ":".toList = [':'] ∧ "//".toList = ['/', '/'] := ⟨rfl, rfl⟩
  simp [text, authorityText, named, tailText, placeText, toList_pathText, signs]

theorem inked_append {cs ds : List Char} (first : Inked cs) (second : Inked ds) :
    Inked (cs ++ ds) := List.forall_mem_append.mpr ⟨first, second⟩

theorem inked_tailText (settled : Settled port u) : Inked u.tailText := by
  have part {set : Percent.EncodeSet} (blank : ' ' ∈ set) {mark : String} (sign : Inked mark.toList)
      {s : Option String} (own : ∀ t, s = some t → ∀ c ∈ t.toList, Percent.isKept set c = true) :
      Inked (behind mark s).toList := by
    cases s with
    | none => exact nofun
    | some t =>
      rw [behind, String.toList_append]
      exact inked_append sign fun c member => Percent.lt_of_isKept blank (own t rfl c member)
  rw [tailText, String.toList_append]
  exact inked_append (part (by decide) (by decide) settled.query)
    (part (by decide) (by decide) settled.fragment)

theorem inked_text (settled : Settled port u) : Inked u.text.toList := by
  obtain ⟨host, named, known⟩ := settled.host
  have scheme : ∀ s ∈ ["http", "ws", "https", "wss", "ftp"], Inked s.toList := by decide
  have place : Inked (u.placeText host) := fun c member =>
    (mem_placeText settled known member).elim (fun plain => plain.1) fun sign => by
      rw [sign]
      decide
  have path : Inked (written u.path) := fun c member =>
    Percent.lt_of_isKept (by decide) (isPathChar_written settled.escaped c member)
  have signs : Inked [':', '/', '/'] := by decide
  rw [toList_text named]
  exact inked_append (scheme _ (scheme_mem settled.kind))
    (inked_append signs (inked_append place (inked_append path (inked_tailText settled))))

theorem read_text (settled : Settled port u) : Url.read u.text = .ok (.hierarchical u) := by
  have inked := inked_text settled
  obtain ⟨host, named, known⟩ := settled.host
  rw [toList_text named] at inked
  have whole : kept ('/' :: '/' :: (u.placeText host ++ (written u.path ++ u.tailText))) = _ :=
    kept_of_inked fun c member => inked c (List.mem_append_right _ (.tail _ member))
  have kind : SchemeKind.of u.scheme = .web port := settled.kind
  simp only [Url.read, toList_text named, stripped_of_inked inked, readScheme_web kind, kind, whole,
    dropWhile_slashes settled known, readAuthority_text settled named known]
  rfl

end TestImpact.Web.Url
