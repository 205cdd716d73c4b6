import TestImpact.Proofs.Collection.Arena

/-!
What an arena answers over a whole history of calls, in whatever order sessions come and go.
-/

namespace TestImpact.Arena

inductive Call
  | allocate (session : String)
  | get (session : String)
  | release (session : String)
  deriving DecidableEq, Repr

def Call.isAllocation : Call → Bool
  | allocate _ => true
  | _ => false

def perform (a : Arena) : Call → Option Snapshot × Arena
  | .allocate session => (some (a.allocate session).1, (a.allocate session).2)
  | .get session => (a.get? session, a)
  | .release session => a.release session

structure Event where
  call : Call
  answer : Option Snapshot
  deriving DecidableEq, Repr

def events (a : Arena) : List Call → List Event
  | [] => []
  | c :: calls => ⟨c, (a.perform c).1⟩ :: (a.perform c).2.events calls

def reached (a : Arena) (calls : List Call) : Arena := calls.foldl (fun a c => (a.perform c).2) a

/-- What a session holds behind an event, if it held `before` in front of it. -/
def Event.leaves (session : String) (before : Option Snapshot) (e : Event) : Option Snapshot :=
  match e.call with
  | .allocate other => if other = session then e.answer else before
  | .get _ => before
  | .release other => if other = session then none else before

/-- What a session holds by its history alone: the snapshot of its last allocation, unless it was
    released since. -/
def held (past : List Event) (session : String) : Option Snapshot :=
  past.foldl (Event.leaves session) none

/-- The token that an event issues, behind what was before: that of an allocation for a session that
    holds nothing. -/
def issue? (past : List Event) (e : Event) : Option Nat :=
  match e.call with
  | .allocate session => if held past session = none then e.answer.map Snapshot.token else none
  | _ => none

def tokensAfter (past : List Event) : List Event → List Nat
  | [] => []
  | e :: later => (issue? past e).toList ++ tokensAfter (past ++ [e]) later

def tokens (past : List Event) : List Nat := tokensAfter [] past

def shown (past : List Event) : List Snapshot := past.filterMap Event.answer

section History

variable {past : List Event} {a : Arena}

theorem held_concat (past : List Event) (e : Event) (session : String) :
    held (past ++ [e]) session = e.leaves session (held past session) := by
  rw [held, List.foldl_append]
  rfl

theorem tokensAfter_append (before past later : List Event) :
    tokensAfter before (past ++ later) =
      tokensAfter before past ++ tokensAfter (before ++ past) later := by
  induction past generalizing before with
  | nil => simp [tokensAfter]
  | cons e past ih => simp [tokensAfter, ih]

theorem tokens_concat (past : List Event) (e : Event) :
    tokens (past ++ [e]) = tokens past ++ (issue? past e).toList := by
  simp [tokens, tokensAfter_append, tokensAfter]

theorem events_split {calls : List Call} {before later : List Event} {e : Event}
    (split : a.events calls = before ++ e :: later) :
    ∃ earlier calls', e.answer = ((a.reached earlier).perform e.call).1 ∧
      later = ((a.reached earlier).perform e.call).2.events calls' := by
  induction before generalizing a calls with
  | nil =>
    cases calls with
    | nil => cases split
    | cons c calls =>
      cases split
      exact ⟨[], calls, rfl, rfl⟩
  | cons e' before ih =>
    cases calls with
    | nil => cases split
    | cons c calls =>
      simp only [events, List.cons_append, List.cons.injEq] at split
      obtain ⟨earlier, calls', answer, rest⟩ := ih split.2
      exact ⟨c :: earlier, calls', answer, rest⟩

end History

/-- An arena holds what its history says, and its count is that of the tokens in it. -/
structure Keeps (a : Arena) (past : List Event) : Prop where
  numbered : a.Numbered
  holds : ∀ session, a.get? session = held past session
  issued : tokens past = List.range' 1 a.issued
  within : a.issued ≤ past.countP (·.call.isAllocation)

namespace Keeps

variable {a : Arena} {past : List Event}

theorem empty : Keeps {} [] := ⟨numbered_empty, fun _ => rfl, rfl, Nat.le_refl 0⟩

theorem allocate (keeps : a.Keeps past) (session : String) :
    (a.allocate session).2.Keeps
      (past ++ [⟨.allocate session, some (a.allocate session).1⟩]) := by
  have counted := a.issued_allocate session
  have within := keeps.within
  refine ⟨keeps.numbered.allocate session, fun other => ?_, ?_, ?_⟩
  · rw [get?_allocate, held_concat, Event.leaves, keeps.holds]
    simp only [eq_comm]
  · rw [tokens_concat, keeps.issued]
    cases live : a.get? session with
    | some s =>
      have holds : held past session = some s := by rw [← keeps.holds, live]
      simp [issue?, holds, allocate_of_some live]
    | none =>
      have holds : held past session = none := by rw [← keeps.holds, live]
      simp [issue?, holds, allocate_of_none live, List.range'_concat, Nat.add_comm]
  · have one : (Call.allocate session).isAllocation = true := rfl
    rw [List.countP_append, List.countP_singleton, one, if_pos rfl]
    omega

theorem get (keeps : a.Keeps past) (session : String) :
    a.Keeps (past ++ [⟨.get session, a.get? session⟩]) := by
  refine ⟨keeps.numbered, fun other => ?_, ?_, ?_⟩
  · rw [held_concat, keeps.holds]
    rfl
  · rw [tokens_concat, keeps.issued]
    simp [issue?]
  · simpa [Call.isAllocation] using keeps.within

theorem release (keeps : a.Keeps past) (session : String) :
    (a.release session).2.Keeps (past ++ [⟨.release session, (a.release session).1⟩]) := by
  refine ⟨keeps.numbered.release session, fun other => ?_, ?_, ?_⟩
  · rw [get?_release, held_concat, Event.leaves, keeps.holds]
    simp only [eq_comm]
  · rw [tokens_concat, keeps.issued]
    simp [issue?, Arena.release]
  · simpa [Call.isAllocation, Arena.release] using keeps.within

theorem perform (keeps : a.Keeps past) (c : Call) :
    (a.perform c).2.Keeps (past ++ [⟨c, (a.perform c).1⟩]) := by
  cases c with
  | allocate session => exact keeps.allocate session
  | get session => exact keeps.get session
  | release session => exact keeps.release session

theorem run (keeps : a.Keeps past) (calls : List Call) :
    (a.reached calls).Keeps (past ++ a.events calls) := by
  induction calls generalizing a past with
  | nil => simpa [events, reached] using keeps
  | cons c calls ih => simpa [events, reached] using ih (keeps.perform c)

end Keeps

/-- A token that was issued and that no session holds any more. -/
structure Retired (a : Arena) (token : Nat) : Prop where
  counted : token ≤ a.issued
  absent : ∀ session s, a.get? session = some s → s.token ≠ token

namespace Retired

variable {a : Arena} {token : Nat}

theorem of_release (numbered : a.Numbered) {session : String} {s : Snapshot}
    (live : a.get? session = some s) : (a.release session).2.Retired s.token where
  counted := (numbered.counted session s live).2
  absent other s' found same := by
    rw [get?_release] at found
    split at found
    · cases found
    · rename_i apart
      exact apart (numbered.distinct other session s' s found live same)

theorem perform (retired : a.Retired token) (c : Call) :
    (∀ s, (a.perform c).1 = some s → s.token ≠ token) ∧ (a.perform c).2.Retired token := by
  cases c with
  | allocate session =>
    have fresh : (a.allocate session).1.token ≠ token := by
      cases live : a.get? session with
      | some s =>
        rw [allocate_of_some live]
        exact retired.absent session s live
      | none =>
        rw [allocate_of_none live]
        have := retired.counted
        simp only
        omega
    refine ⟨fun s shown => ?_, ?_, fun other s found => ?_⟩
    · cases shown
      exact fresh
    · exact Nat.le_trans retired.counted (a.issued_allocate session).1
    · simp only [Arena.perform, get?_allocate] at found
      split at found
      · cases found
        exact fresh
      · exact retired.absent other s found
  | get session => exact ⟨retired.absent session, retired⟩
  | release session =>
    refine ⟨retired.absent session, retired.counted, fun other s found => ?_⟩
    simp only [Arena.perform, get?_release] at found
    split at found
    · cases found
    · exact retired.absent other s found

theorem run (retired : a.Retired token) (calls : List Call) :
    ∀ s ∈ shown (a.events calls), s.token ≠ token := by
  induction calls generalizing a with
  | nil => exact nofun
  | cons c calls ih =>
    obtain ⟨fresh, retired⟩ := retired.perform c
    intro s member
    rw [shown, events, List.filterMap_cons] at member
    split at member
    · exact ih retired s member
    · rename_i s' answer
      rcases List.mem_cons.mp member with rfl | member
      · exact fresh s answer
      · exact ih retired s member

end Retired

/-- After any calls, each session holds what it was given last, unless it was released since. An
    allocation gives a session what it holds and changes nothing, or a token past all that were
    issued; a release takes from one session alone. Tokens are issued in turn from 1 on, at most one
    for each allocation, and that of a released session is never seen again. -/
theorem tokens_issued_once (calls : List Call) :
    let past := events {} calls
    let a := reached {} calls
    (∀ session, a.get? session = held past session) ∧
    (∀ session s, held past session = some s →
      s.session = session ∧ a.allocate session = (s, a)) ∧
    (∀ session, held past session = none → ∃ token,
      (a.allocate session).1 = ⟨session, token⟩ ∧ (∀ earlier ∈ tokens past, earlier < token) ∧
      ∀ other, (a.allocate session).2.get? other =
        if other = session then some ⟨session, token⟩ else held past other) ∧
    (∀ session, (a.release session).1 = held past session ∧
      ∀ other, (a.release session).2.get? other =
        if other = session then none else held past other) ∧
    tokens past = List.range' 1 a.issued ∧
    a.issued ≤ past.countP (·.call.isAllocation) ∧
    ∀ before session s later, past = before ++ ⟨.release session, some s⟩ :: later →
      ∀ s' ∈ shown later, s'.token ≠ s.token := by
  intro past a
  have keeps : a.Keeps past := Keeps.empty.run calls
  refine ⟨keeps.holds, fun session s holds => ?_, fun session holds => ?_, fun session => ?_,
    keeps.issued, keeps.within, fun before session s later split => ?_⟩
  · have live := (keeps.holds session).trans holds
    exact ⟨keeps.numbered.own session s live, allocate_of_some live⟩
  · have absent := (keeps.holds session).trans holds
    have given : (a.allocate session).1 = ⟨session, a.issued + 1⟩ := by
      rw [allocate_of_none absent]
    refine ⟨a.issued + 1, given, fun earlier member => ?_, fun other => ?_⟩
    · rw [keeps.issued, List.mem_range'_1] at member
      omega
    · rw [get?_allocate, given, keeps.holds]
  · refine ⟨keeps.holds session, fun other => ?_⟩
    rw [get?_release, keeps.holds]
  · obtain ⟨earlier, calls', answer, rfl⟩ := events_split split
    have numbered := (Keeps.empty.run earlier).numbered
    exact (Retired.of_release numbered answer.symm).run calls'

theorem returning_session_renewed :
    let calls : List Call := [.allocate "a", .allocate "b", .release "a", .allocate "a"]
    let past := events {} calls
    let a := reached {} calls
    past = [⟨.allocate "a", some ⟨"a", 1⟩⟩, ⟨.allocate "b", some ⟨"b", 2⟩⟩] ++
        ⟨.release "a", some ⟨"a", 1⟩⟩ :: [⟨.allocate "a", some ⟨"a", 3⟩⟩] ∧
      held past "a" = some ⟨"a", 3⟩ ∧ a.allocate "a" = (⟨"a", 3⟩, a) ∧
      held past "c" = none ∧ (∃ token, (a.allocate "c").1 = ⟨"c", token⟩ ∧
        ∀ earlier ∈ tokens past, earlier < token) ∧
      ∀ s ∈ shown [⟨.allocate "a", some ⟨"a", 3⟩⟩], s.token ≠ 1 := by
  intro calls past a
  obtain ⟨-, live, absent, -, -, -, released⟩ := tokens_issued_once calls
  have split : past = [⟨.allocate "a", some ⟨"a", 1⟩⟩, ⟨.allocate "b", some ⟨"b", 2⟩⟩] ++
      ⟨.release "a", some ⟨"a", 1⟩⟩ :: [⟨.allocate "a", some ⟨"a", 3⟩⟩] := by decide
  have holds : held past "a" = some ⟨"a", 3⟩ := by decide
  have free : held past "c" = none := by decide
  obtain ⟨token, given, larger, -⟩ := absent "c" free
  exact ⟨split, holds, (live "a" _ holds).2, free, ⟨token, given, larger⟩,
    released _ _ _ _ split⟩

end TestImpact.Arena
