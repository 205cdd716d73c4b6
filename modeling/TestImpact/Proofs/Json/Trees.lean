import TestImpact.Json.Writer
import TestImpact.Proofs.Json.Scanning
import TestImpact.Proofs.Text.Units

namespace TestImpact.Json

mutual

def Value.IsWhole : Value → Prop
  | .number (.real _) => False
  | .list vs => AllWhole vs
  | .object ms => MembersWhole ms
  | _ => True

def AllWhole : List Value → Prop
  | [] => True
  | v :: vs => v.IsWhole ∧ AllWhole vs

def MembersWhole : List (String × Value) → Prop
  | [] => True
  | (_, v) :: ms => v.IsWhole ∧ MembersWhole ms

end

mutual

def Value.tree : Value → Tree
  | .null => .null
  | .bool b => .bool b
  | .number (.integer n) => .number (wholeToken n)
  | .number (.real x) => .number (NumberToken.read false ((Number.real x).text.toList.map some)).1
  | .text s => .text (.ofString s)
  | .list vs => .list (trees vs) .closed
  | .object ms => .object (memberTrees ms) .closed

def trees : List Value → List Tree
  | [] => []
  | v :: vs => v.tree :: trees vs

def memberTrees : List (String × Value) → List (TextToken × Tree)
  | [] => []
  | (k, v) :: ms => (.ofString k, v.tree) :: memberTrees ms

end

structure Spacing.Blank (sp : Spacing) : Prop where
  line : ∀ depth, ∀ c ∈ sp.line depth, isSpace c = true
  afterColon : ∀ c ∈ sp.afterColon, isSpace c = true

theorem Spacing.blank_none : Spacing.none.Blank := ⟨nofun, nofun⟩

theorem Spacing.blank_lines : Spacing.lines.Blank where
  line depth c member := by
    rcases List.mem_cons.mp member with rfl | member
    · rfl
    · rw [List.eq_of_mem_replicate member]
      rfl
  afterColon c member := by
    rw [List.mem_singleton.mp member]
    rfl

def Spot.TakesValue : Spot → Prop
  | .value | .itemOrClose | .item => True
  | _ => False

theorem step_value {spot : Spot} (takes : spot.TakesValue) {token : Token}
    (opens : token ≠ .listClose) (frames : List Frame) :
    step spot frames token = beginValue frames token := by
  cases spot with
  | value => rfl
  | itemOrClose | item =>
    rcases frames with _ | ⟨_ | _ | _, frames⟩ <;> cases token <;>
      first | rfl | exact absurd rfl opens
  | keyOrClose | key | colon | commaOrClose => exact takes.elim

theorem run_scanned {source rest : Source} {token : Token}
    (scanned : Token.scan source = token :: Token.scan rest) {spot : Spot}
    (takes : spot.TakesValue) (opens : token ≠ .listClose) (frames : List Frame) :
    (Progress.within spot frames).run (Token.scan source) =
      (beginValue frames token).run (Token.scan rest) := by
  rw [scanned, Progress.run, step_value takes opens]

theorem scan_null (rest : Source) :
    Token.scan (['n', 'u', 'l', 'l'].map some ++ rest) = .null :: Token.scan rest := by
  simp [Token.scan, isSpace, Token.read, punctuation, isDigit, readWord, Word.token]

theorem scan_true (rest : Source) :
    Token.scan (['t', 'r', 'u', 'e'].map some ++ rest) = .bool true :: Token.scan rest := by
  simp [Token.scan, isSpace, Token.read, punctuation, isDigit, readWord, Word.token]

theorem scan_false (rest : Source) :
    Token.scan (['f', 'a', 'l', 's', 'e'].map some ++ rest) = .bool false :: Token.scan rest := by
  simp [Token.scan, isSpace, Token.read, punctuation, isDigit, readWord, Word.token]

theorem endsNumber_itemChars (sp : Spacing) (depth : Nat) (vs : List Value) {rest : Source}
    (ends : rest.EndsNumber) : Source.EndsNumber ((itemChars sp depth vs).map some ++ rest) := by
  cases vs with
  | nil => exact ends
  | cons v vs => exact endsNumber_of_punctuation (t := .comma) rfl _

theorem endsNumber_memberChars (sp : Spacing) (depth : Nat) (ms : List (String × Value))
    {rest : Source} (ends : rest.EndsNumber) :
    Source.EndsNumber ((memberChars sp depth ms).map some ++ rest) := by
  cases ms with
  | nil => exact ends
  | cons m ms => exact endsNumber_of_punctuation (t := .comma) rfl _

section Run

variable {sp : Spacing} (blank : sp.Blank)

include blank

theorem endsNumber_of_closing (depth : Nat) {c : Char} {t : Token} (mark : punctuation c = some t)
    (rest : Source) : Source.EndsNumber ((sp.line depth).map some ++ some c :: rest) :=
  endsNumber_of_blanks (blank.line depth) (endsNumber_of_punctuation mark rest)

theorem run_listClose (depth : Nat) (items : List Tree) (frames : List Frame) (rest : Source) :
    (Progress.within .commaOrClose (.list items :: frames)).run
        (Token.scan ((sp.line depth).map some ++ some ']' :: rest)) =
      (supply (.list items.reverse .closed) frames).run (Token.scan rest) := by
  rw [scan_blanks (blank.line depth), scan_punctuation (t := .listClose) rfl, Progress.run]
  rfl

theorem run_objectClose (depth : Nat) (members : List (TextToken × Tree)) (frames : List Frame)
    (rest : Source) :
    (Progress.within .commaOrClose (.object members :: frames)).run
        (Token.scan ((sp.line depth).map some ++ some '\x7d' :: rest)) =
      (supply (.object members.reverse .closed) frames).run (Token.scan rest) := by
  rw [scan_blanks (blank.line depth), scan_punctuation (t := .objectClose) rfl, Progress.run]
  rfl

theorem run_key {spot : Spot} (takes : spot = .key ∨ spot = .keyOrClose)
    (members : List (TextToken × Tree)) (frames : List Frame) (k : String) (rest : Source) :
    (Progress.within spot (.object members :: frames)).run
        (Token.scan ((textChars k).map some ++ some ':' :: (sp.afterColon.map some ++ rest))) =
      (Progress.within .value (.member members (.ofString k) :: frames)).run (Token.scan rest) := by
  have keyed : step spot (.object members :: frames) (.text (.ofString k)) =
      .within (.colon (.ofString k)) (.object members :: frames) := by
    rcases takes with rfl | rfl <;> rfl
  rw [scan_text, Progress.run, keyed, scan_punctuation (t := .colon) rfl, Progress.run, step,
    scan_blanks blank.afterColon]

mutual

theorem run_chars (v : Value) (whole : v.IsWhole) (depth : Nat) {spot : Spot}
    (takes : spot.TakesValue) (frames : List Frame) {rest : Source} (ends : rest.EndsNumber) :
    (Progress.within spot frames).run (Token.scan ((v.chars sp depth).map some ++ rest)) =
      (supply v.tree frames).run (Token.scan rest) := by
  match v with
  | .null => exact run_scanned (scan_null rest) takes nofun frames
  | .bool true => exact run_scanned (scan_true rest) takes nofun frames
  | .bool false => exact run_scanned (scan_false rest) takes nofun frames
  | .number (.integer n) => exact run_scanned (scan_whole n ends) takes nofun frames
  | .number (.real x) => exact whole.elim
  | .text s => exact run_scanned (scan_text s rest) takes nofun frames
  | .list [] =>
    have opening := scan_punctuation (c := '[') rfl (some ']' :: rest)
    refine (run_scanned opening takes nofun frames).trans ?_
    rw [scan_punctuation (t := .listClose) rfl, beginValue, Progress.run]
    rfl
  | .list (v :: vs) =>
    have closing := endsNumber_of_closing blank depth (c := ']') (t := .listClose) rfl rest
    have split : ((Value.list (v :: vs)).chars sp depth).map some ++ rest =
        some '[' :: ((sp.line (depth + 1)).map some ++ ((v.chars sp (depth + 1)).map some ++
          ((itemChars sp (depth + 1) vs).map some ++
            ((sp.line depth).map some ++ some ']' :: rest)))) := by
      simp [Value.chars]
    have first : Spot.TakesValue .itemOrClose := trivial
    -- The list stays open in front of the other frames until its bracket is read.
    rw [split, run_scanned (scan_punctuation (t := .listOpen) rfl _) takes nofun, beginValue,
      scan_blanks (blank.line _), run_chars v whole.1 (depth + 1) first _
        (endsNumber_itemChars sp (depth + 1) vs closing), supply, Frame.add,
      run_items vs whole.2 (depth + 1) [v.tree] frames closing, run_listClose blank]
    simp [Value.tree, trees]
  | .object [] =>
    have opening := scan_punctuation (c := '\x7b') rfl (some '\x7d' :: rest)
    refine (run_scanned opening takes nofun frames).trans ?_
    rw [scan_punctuation (t := .objectClose) rfl, beginValue, Progress.run]
    rfl
  | .object ((k, v) :: ms) =>
    have closing := endsNumber_of_closing blank depth (c := '\x7d') (t := .objectClose) rfl rest
    have split : ((Value.object ((k, v) :: ms)).chars sp depth).map some ++ rest =
        some '\x7b' :: ((sp.line (depth + 1)).map some ++ ((textChars k).map some ++ some ':' ::
          (sp.afterColon.map some ++ ((v.chars sp (depth + 1)).map some ++
            ((memberChars sp (depth + 1) ms).map some ++
              ((sp.line depth).map some ++ some '\x7d' :: rest)))))) := by
      simp [Value.chars]
    have anywhere : Spot.TakesValue .value := trivial
    rw [split, run_scanned (scan_punctuation (t := .objectOpen) rfl _) takes nofun, beginValue,
      scan_blanks (blank.line _), run_key blank (.inr rfl),
      run_chars v whole.1 (depth + 1) anywhere _
        (endsNumber_memberChars sp (depth + 1) ms closing), supply, Frame.add,
      run_members ms whole.2 (depth + 1) [(.ofString k, v.tree)] frames closing,
      run_objectClose blank]
    simp [Value.tree, memberTrees]

theorem run_items (vs : List Value) (whole : AllWhole vs) (depth : Nat) (items : List Tree)
    (frames : List Frame) {rest : Source} (ends : rest.EndsNumber) :
    (Progress.within .commaOrClose (.list items :: frames)).run
        (Token.scan ((itemChars sp depth vs).map some ++ rest)) =
      (Progress.within .commaOrClose (.list ((trees vs).reverse ++ items) :: frames)).run
        (Token.scan rest) := by
  match vs with
  | [] => rfl
  | v :: vs =>
    have split : (itemChars sp depth (v :: vs)).map some ++ rest =
        some ',' :: ((sp.line depth).map some ++ ((v.chars sp depth).map some ++
          ((itemChars sp depth vs).map some ++ rest))) := by
      simp [itemChars]
    have next : Spot.TakesValue .item := trivial
    rw [split, scan_punctuation (t := .comma) rfl, Progress.run, step, scan_blanks (blank.line _),
      run_chars v whole.1 depth next _ (endsNumber_itemChars sp depth vs ends), supply,
      Frame.add, run_items vs whole.2 depth (v.tree :: items) frames ends]
    simp [trees]

theorem run_members (ms : List (String × Value)) (whole : MembersWhole ms) (depth : Nat)
    (members : List (TextToken × Tree)) (frames : List Frame) {rest : Source}
    (ends : rest.EndsNumber) :
    (Progress.within .commaOrClose (.object members :: frames)).run
        (Token.scan ((memberChars sp depth ms).map some ++ rest)) =
      (Progress.within .commaOrClose (.object ((memberTrees ms).reverse ++ members) :: frames)).run
        (Token.scan rest) := by
  match ms with
  | [] => rfl
  | (k, v) :: ms =>
    have split : (memberChars sp depth ((k, v) :: ms)).map some ++ rest =
        some ',' :: ((sp.line depth).map some ++ ((textChars k).map some ++ some ':' ::
          (sp.afterColon.map some ++ ((v.chars sp depth).map some ++
            ((memberChars sp depth ms).map some ++ rest))))) := by
      simp [memberChars]
    have anywhere : Spot.TakesValue .value := trivial
    rw [split, scan_punctuation (t := .comma) rfl, Progress.run, step, scan_blanks (blank.line _),
      run_key blank (.inl rfl), run_chars v whole.1 depth anywhere _
        (endsNumber_memberChars sp depth ms ends), supply, Frame.add,
      run_members ms whole.2 depth ((.ofString k, v.tree) :: members) frames ends]
    simp [memberTrees]

end

theorem read_chars {α : Type} (r : Reader α) {v : Value} (whole : v.IsWhole) :
    read r ((v.chars sp 0).map some) = r v.tree := by
  have anywhere : Spot.TakesValue .value := trivial
  have ends : Source.EndsNumber [] := trivial
  have run := run_chars blank v whole 0 anywhere [] ends
  rw [List.append_nil, Token.scan, supply, Progress.run] at run
  rw [read, Tree.ofTokens, run]
  dsimp only
  cases r v.tree <;> rfl

end Run

theorem read_compact {α : Type} (r : Reader α) {v : Value} (whole : v.IsWhole) :
    read r (.ofString v.compact) = r v.tree := by
  rw [Source.ofString, Value.compact, String.toList_ofList,
    read_chars Spacing.blank_none r whole]

theorem read_pretty {α : Type} (r : Reader α) {v : Value} (whole : v.IsWhole) :
    read r (Text.Utf8.units (Text.Utf8.encode v.pretty)) = r v.tree := by
  rw [Text.Utf8.units_encode, Value.pretty, String.toList_ofList,
    read_chars Spacing.blank_lines r whole]

end TestImpact.Json
