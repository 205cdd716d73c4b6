import Mathlib.Data.List.Chain
import TestImpact.Proofs.Collection.Snapshots

namespace TestImpact

namespace Inquiry

def snapshot? : Inquiry → Option Snapshot
  | reset s | began s .. | closed s .. | built s .. => some s
  | _ => none

/-- What a call leaves its token's windows in: none is open, one of some test is, or no call may
    follow. -/
def leaves : Inquiry → Option (Option String)
  | reset _ | began _ _ false | closed .. => some none
  | began _ path true => some (some path)
  | _ => none

def Next (q : Inquiry) : Inquiry → Prop
  | began s _ _ => q.snapshot? = some s ∧ q.leaves = some none
  | closed s path _ => q.snapshot? = some s ∧ q.leaves = some (some path)
  | built s _ _ => q.snapshot? = some s ∧ q.leaves.isSome
  | _ => False

end Inquiry

def callsWith (token : Nat) (asked : List Inquiry) : List Inquiry :=
  asked.filter fun q => q.snapshot?.any (·.token = token)

theorem callsWith_append (token : Nat) (asked more : List Inquiry) :
    callsWith token (asked ++ more) = callsWith token asked ++ callsWith token more :=
  List.filter_append ..

theorem callsWith_of_quiet {asked : List Inquiry} (quiet : ∀ q ∈ asked, q.snapshot? = none)
    (token : Nat) : callsWith token asked = [] := by
  refine List.filter_eq_nil_iff.mpr fun q member => ?_
  simp [quiet q member]

structure AsksOnce (q : Inquiry) (s : Snapshot) (more : List Inquiry) : Prop where
  about : q.snapshot? = some s
  calls : ∀ token, callsWith token more = if token = s.token then [q] else []

theorem AsksOnce.intro {q : Inquiry} {s : Snapshot} {before after : List Inquiry}
    (about : q.snapshot? = some s) (quiet : ∀ p ∈ before ++ after, p.snapshot? = none) :
    AsksOnce q s (before ++ q :: after) where
  about := about
  calls token := by
    have first := callsWith_of_quiet (fun p member => quiet p (List.mem_append_left _ member)) token
    have last := callsWith_of_quiet (fun p member => quiet p (List.mem_append_right _ member)) token
    rw [callsWith] at last
    rw [callsWith_append, first, List.nil_append, callsWith, List.filter_cons, last, about]
    by_cases same : token = s.token
    · simp [same]
    · simp [same, Ne.symm same]

theorem AsksOnce.alone {q : Inquiry} {s : Snapshot} (about : q.snapshot? = some s) :
    AsksOnce q s [q] := by
  have once : AsksOnce q s ([] ++ q :: []) := .intro about nofun
  exact once

structure InTurn (asked : List Inquiry) : Prop where
  first : ∀ token, ∀ q ∈ (callsWith token asked).head?, ∃ s, q = .reset s
  next : ∀ token, (callsWith token asked).IsChain Inquiry.Next

namespace InTurn

variable {asked more : List Inquiry} {s : Snapshot} {q last : Inquiry}

theorem quiet (inTurn : InTurn asked) (silent : ∀ token, callsWith token more = []) :
    InTurn (asked ++ more) := by
  have same (token : Nat) : callsWith token (asked ++ more) = callsWith token asked := by
    rw [callsWith_append, silent, List.append_nil]
  exact ⟨fun token => by rw [same]; exact inTurn.first token,
    fun token => by rw [same]; exact inTurn.next token⟩

theorem reset (inTurn : InTurn asked) (unused : callsWith s.token asked = [])
    (once : AsksOnce (.reset s) s more) : InTurn (asked ++ more) := by
  refine ⟨fun token => ?_, fun token => ?_⟩ <;> rw [callsWith_append, once.calls]
  all_goals by_cases same : token = s.token
  · rw [same, unused, if_pos rfl]
    rintro q ⟨⟩
    exact ⟨s, rfl⟩
  · rw [if_neg same, List.append_nil]
    exact inTurn.first token
  · rw [same, unused, if_pos rfl]
    exact .singleton _
  · rw [if_neg same, List.append_nil]
    exact inTurn.next token

theorem call (inTurn : InTurn asked) (before : (callsWith s.token asked).getLast? = some last)
    (may : last.Next q) (once : AsksOnce q s more) : InTurn (asked ++ more) := by
  refine ⟨fun token => ?_, fun token => ?_⟩ <;> rw [callsWith_append, once.calls]
  all_goals by_cases same : token = s.token
  · subst same
    rw [if_pos rfl, List.head?_append_of_ne_nil _ (by intro none; simp [none] at before)]
    exact inTurn.first s.token
  · rw [if_neg same, List.append_nil]
    exact inTurn.first token
  · subst same
    rw [if_pos rfl]
    refine (inTurn.next s.token).append (.singleton q) fun x here y there => ?_
    rw [before] at here
    cases here
    cases there
    exact may
  · rw [if_neg same, List.append_nil]
    exact inTurn.next token

end InTurn

namespace Collector

open Action

variable {σ : Type}

/-- The calls that were made, seen from the collector: no token is used before it is issued, and
    those of an open session have left its windows as its record says. -/
structure Used (asked : List Inquiry) (c : Collector) : Prop where
  inTurn : InTurn asked
  unused : ∀ token, c.arena.issued < token → callsWith token asked = []
  ready : ∀ id r s, c.sessions.get? id = some r → c.arena.get? id = some s →
    ∃ q, (callsWith s.token asked).getLast? = some q ∧ q.snapshot? = some s ∧
      q.leaves = some r.active

namespace Used

variable {asked more : List Inquiry} {c c' : Collector} {id : String} {r : SessionRecord}
  {s : Snapshot} {q : Inquiry}

theorem quiet (used : Used asked c) (silent : ∀ token, callsWith token more = [])
    (issued : c'.arena.issued = c.arena.issued)
    (kept : ∀ id r s, c'.sessions.get? id = some r → c'.arena.get? id = some s →
      c.sessions.get? id = some r ∧ c.arena.get? id = some s) : Used (asked ++ more) c' where
  inTurn := used.inTurn.quiet silent
  unused token beyond := by
    rw [callsWith_append, silent, used.unused token (issued ▸ beyond), List.append_nil]
  ready id r s found held := by
    obtain ⟨found, held⟩ := kept id r s found held
    rw [callsWith_append, silent, List.append_nil]
    exact used.ready id r s found held

theorem call (used : Used asked c) (numbered : c.arena.Numbered)
    (found : c.sessions.get? id = some r) (held : c.arena.get? id = some s)
    (once : AsksOnce q s more)
    (may : ∀ last : Inquiry, last.snapshot? = some s → last.leaves = some r.active → last.Next q)
    (issued : c'.arena.issued = c.arena.issued)
    (moved : ∀ id' r' s', c'.sessions.get? id' = some r' → c'.arena.get? id' = some s' →
      id' ≠ id ∧ c.sessions.get? id' = some r' ∧ c.arena.get? id' = some s' ∨
        s' = s ∧ q.leaves = some r'.active) : Used (asked ++ more) c' := by
  obtain ⟨last, before, about, left⟩ := used.ready id r s found held
  refine ⟨used.inTurn.call before (may last about left) once, fun token beyond => ?_,
    fun id' r' s' found' held' => ?_⟩
  · have inside := (numbered.counted id s held).2
    rw [issued] at beyond
    rw [callsWith_append, used.unused token beyond, once.calls, if_neg (by omega), List.append_nil]
  · rw [callsWith_append, once.calls]
    rcases moved id' r' s' found' held' with ⟨other, found', held'⟩ | ⟨rfl, now⟩
    · have apart : s'.token ≠ s.token := fun same =>
        other (numbered.distinct id' id s' s held' held same)
      rw [if_neg apart, List.append_nil]
      exact used.ready id' r' s' found' held'
    · rw [if_pos rfl]
      exact ⟨q, List.getLast?_concat .., once.about, now⟩

theorem record (used : Used asked c) (numbered : c.arena.Numbered)
    (found : c.sessions.get? id = some r) (held : c.arena.get? id = some s)
    (once : AsksOnce q s more)
    (may : ∀ last : Inquiry, last.snapshot? = some s → last.leaves = some r.active → last.Next q)
    {r' : SessionRecord} (left : q.leaves = some r'.active)
    (sessions : ∀ other, c'.sessions.get? other = if other = id then some r' else
      c.sessions.get? other) (arena : c'.arena = c.arena) : Used (asked ++ more) c' := by
  refine used.call numbered found held once may (by rw [arena]) fun id' r'' s' found' held' => ?_
  rw [sessions] at found'
  rw [arena] at held'
  by_cases same : id' = id
  · rw [if_pos same] at found'
    cases found'
    rw [same, held] at held'
    cases held'
    exact .inr ⟨rfl, left⟩
  · rw [if_neg same] at found'
    exact .inl ⟨same, found', held'⟩

theorem reset (used : Used asked c) (numbered : c.arena.Numbered) (new : c.arena.get? id = none)
    (arena : c'.arena = (c.arena.allocate id).2)
    (sessions : ∀ other r', c'.sessions.get? other = some r' →
      if other = id then r'.active = none else c.sessions.get? other = some r') :
    Used (asked ++ [.issued (some id), .reset (c.arena.allocate id).1]) c' := by
  let t : Snapshot := ⟨id, c.arena.issued + 1⟩
  rw [Arena.allocate_of_none new] at arena ⊢
  have once : AsksOnce (.reset t) t ([.issued (some id)] ++ .reset t :: []) :=
    .intro rfl (by simp [Inquiry.snapshot?])
  simp only [List.cons_append, List.nil_append] at once ⊢
  have unused := used.unused t.token (Nat.lt_succ_self _)
  refine ⟨used.inTurn.reset unused once, fun token beyond => ?_, fun other r' s' found' held' => ?_⟩
  · have later : c.arena.issued + 1 < token := by rwa [arena] at beyond
    rw [callsWith_append, used.unused token (by omega), once.calls, if_neg (Nat.ne_of_gt later),
      List.append_nil]
  · have idle := sessions other r' found'
    have held : (c.arena.live.insert id t).get? other = some s' := by rwa [arena] at held'
    rw [Table.get?_insert] at held
    rw [callsWith_append, once.calls]
    by_cases same : other = id
    · rw [if_pos same] at idle held
      cases held
      rw [if_pos rfl, idle]
      exact ⟨_, List.getLast?_concat .., rfl, rfl⟩
    · rw [if_neg same] at idle held
      have inside := (numbered.counted other s' held).2
      rw [if_neg (Nat.ne_of_lt (Nat.lt_succ_of_le inside)), List.append_nil]
      exact used.ready other r' s' idle held

end Used

theorem snapshot?_of_onFiles {q : Inquiry} (onFiles : q.OnFiles) : q.snapshot? = none := by
  cases q with
  | ensured | timed | wrote | looked => rfl
  | _ => exact onFiles.elim

theorem Delivering.asksOnce {s : Snapshot} {format : Report.Format} {files delivery : List Inquiry}
    {result : Result} (onFiles : ∀ q ∈ files, q.OnFiles)
    (delivering : Delivering s format delivery result) :
    ∃ report, AsksOnce (.built s format report) s (files ++ delivery) := by
  have silent {rest : List Inquiry} (stores : ∀ q ∈ rest, q.snapshot? = none) :
      ∀ q ∈ files ++ rest, q.snapshot? = none := fun q member =>
    (List.mem_append.mp member).elim (fun onFile => snapshot?_of_onFiles (onFiles q onFile))
      (stores q)
  cases delivering with
  | notBuilt h => exact ⟨none, .intro rfl (silent nofun)⟩
  | notStored report h | stored report =>
    refine ⟨some report, .intro rfl (silent fun q member => ?_)⟩
    rw [List.mem_singleton.mp member]
    rfl

theorem of_without {c : Collector} {id other : String} {r : SessionRecord} {s : Snapshot}
    (found : (c.without id).sessions.get? other = some r)
    (held : (c.without id).arena.get? other = some s) :
    other ≠ id ∧ c.sessions.get? other = some r ∧ c.arena.get? other = some s := by
  rw [sessions_without] at found
  rw [arena_without] at held
  split at found
  · cases found
  · rw [if_neg ‹_›] at held
    exact ⟨‹_›, found, held⟩

theorem Used.step {format : Report.Format} {c c' : Collector} {op : Operation}
    {before asked : List Inquiry} {result : Result} (used : Used before c)
    (numbered : c.arena.Numbered) (held : ∀ id ∈ c.sessions.keys, id ∈ c.arena.live.keys)
    (new : ∀ id ∈ issued asked, c.arena.get? id = none)
    (step : Step format c op asked result c') : Used (before ++ asked) c' := by
  cases step with
  | notIssued => exact used.quiet (fun _ => rfl) rfl fun _ _ _ found held => ⟨found, held⟩
  | notReset id =>
    have unheld := new id List.mem_cons_self
    refine used.reset numbered unheld rfl fun other r found => ?_
    split
    · have present := held other (Table.mem_keys_iff.mpr ⟨r, found⟩)
      rw [‹other = id›] at present
      exact absurd present (Table.get?_eq_none_iff.mp unheld)
    · exact found
  | registered id =>
    refine used.reset numbered (new id List.mem_cons_self) rfl fun other r found => ?_
    rw [get?_setRecord] at found
    split at found
    · rw [if_pos ‹_›]
      cases found
      rfl
    · rw [if_neg ‹_›]
      exact found
  | startUnknown | startBusy | endUnknown | endNotRunning | runUnknown =>
    exact used.quiet (fun _ => rfl) rfl fun _ _ _ found held => ⟨found, held⟩
  | runLost found lost =>
    have present := held _ (Table.mem_keys_iff.mpr ⟨_, found⟩)
    exact absurd present (Table.get?_eq_none_iff.mp lost)
  | notBegun found idle held =>
    refine used.record numbered found held (.alone rfl) (fun last about left => ⟨about, ?_⟩)
      (congrArg some idle.symm) (fun other => ?_) rfl
    · rw [left, idle]
    · split
      · rw [‹other = _›, found]
      · rfl
  | begun found idle held =>
    refine used.record numbered found held (.alone rfl) (fun last about left => ⟨about, ?_⟩) rfl
      (get?_setRecord _ · _ _) rfl
    rw [left, idle]
  | notClosed found running held =>
    refine used.record numbered found held (.alone rfl) (fun last about left => ⟨about, ?_⟩) rfl
      (get?_setRecord _ · _ _) rfl
    rw [left, running]
  | @closed id execution _ r s found running held coverage =>
    let r' : SessionRecord := ⟨none, r.executions ++ [execution]⟩
    have idle : (Inquiry.closed s execution.path (some coverage)).leaves = some r'.active := rfl
    refine used.record numbered found held (.alone rfl) (fun last about left => ⟨about, ?_⟩) idle
      (fun other => ?_) rfl
    · rw [left, running]
    · rw [get?_setRecord, get?_setRecord]
      split <;> rfl
  | @writingUnwound id _ _ _ _ found held onFiles | @ended id _ _ _ found held onFiles =>
    refine used.quiet (callsWith_of_quiet fun q member => snapshot?_of_onFiles (onFiles q member))
      rfl fun id' r s found' held' => ?_
    exact (of_without found' held').2
  | @delivered id _ _ _ _ _ found held onFiles delivering =>
    obtain ⟨report, once⟩ := delivering.asksOnce onFiles
    refine used.call numbered found held once (fun last about left => ⟨about, ?_⟩) rfl
      fun id' r s found' held' => .inl (of_without found' held')
    rw [left]
    rfl

theorem Reached.used {format : Report.Format} {past : List Passage} {c : Collector}
    (reached : Reached format past c) (fresh : (issued (inquiries past)).Nodup) :
    Used (inquiries past) c := by
  induction reached with
  | new => exact ⟨⟨fun _ => nofun, fun _ => .nil⟩, fun _ _ => rfl, nofun⟩
  | turn reached step ih =>
    have earlier := fresh_before fresh
    have accounted := reached.accounted earlier
    rw [inquiries_concat]
    exact (ih earlier).step accounted.stocked.numbered accounted.held
      (fun id given => accounted.stocked.absent_of_fresh fresh given) step

end Collector

/-- What the calls with a token are: a reset, then windows, each of which is closed at once or left
    open for the report, and then the report. -/
structure Windowed (calls : List Inquiry) : Prop where
  reset_first : ∀ q rest, calls = q :: rest → (∃ s, q = .reset s) ∧ ∀ s, .reset s ∉ rest
  after_began : ∀ before s path q after, calls = before ++ .began s path true :: q :: after →
    (∃ coverage, q = .closed s path coverage) ∨ ∃ format report, q = .built s format report
  before_closed : ∀ before s path coverage after,
    calls = before ++ .closed s path coverage :: after →
    ∃ earlier, before = earlier ++ [.began s path true]
  built_last : ∀ before s format report after, calls = before ++ .built s format report :: after →
    after = []

namespace Inquiry

variable {p q : Inquiry} {s : Snapshot} {path : String}

theorem eq_began (about : p.snapshot? = some s) (left : p.leaves = some (some path)) :
    p = .began s path true := by
  cases p with
  | began s' path' succeeded =>
    cases succeeded with
    | true =>
      cases about
      cases left
      rfl
    | false => cases left
  | reset | closed | built => cases left
  | _ => cases about

theorem not_next_reset : ¬ p.Next (.reset s) := id

theorem Next.of_began (next : (began s path true).Next q) :
    (∃ coverage, q = .closed s path coverage) ∨ ∃ format report, q = .built s format report := by
  cases q with
  | began s' path' succeeded => cases next.2
  | closed s' path' coverage =>
    obtain ⟨about, left⟩ := next
    cases about
    cases left
    exact .inl ⟨coverage, rfl⟩
  | built s' format report =>
    cases next.1
    exact .inr ⟨format, report, rfl⟩
  | _ => exact next.elim

theorem not_next_of_built {format : Report.Format} {report : Option String} :
    ¬ (built s format report).Next q := by
  intro next
  cases q with
  | began | closed | built => cases next.2
  | _ => exact next

end Inquiry

theorem InTurn.windowed {asked : List Inquiry} (inTurn : InTurn asked) (token : Nat) :
    Windowed (callsWith token asked) := by
  have adjacent {before after : List Inquiry} {p q : Inquiry}
      (split : callsWith token asked = before ++ p :: q :: after) : p.Next q :=
    List.isChain_iff_forall_rel_of_append_cons_cons.mp (inTurn.next token) split
  have preceded {before after : List Inquiry} {q : Inquiry} (later : before ≠ [])
      (split : callsWith token asked = before ++ q :: after) :
      ∃ earlier p, before = earlier ++ [p] ∧ p.Next q := by
    rcases List.eq_nil_or_concat before with rfl | ⟨earlier, p, rfl⟩
    · exact absurd rfl later
    · rw [List.concat_eq_append, List.append_assoc] at split
      exact ⟨earlier, p, List.concat_eq_append, adjacent split⟩
  have first {q : Inquiry} {rest : List Inquiry} (split : callsWith token asked = q :: rest) :
      ∃ s, q = .reset s :=
    inTurn.first token q (by rw [split, List.head?_cons, Option.mem_some_iff])
  constructor
  · intro q rest split
    refine ⟨first split, fun s member => ?_⟩
    obtain ⟨before, after, rfl⟩ := List.append_of_mem member
    obtain ⟨earlier, p, -, next⟩ := preceded (List.cons_ne_nil q before) split
    exact Inquiry.not_next_reset next
  · exact fun before s path q after split => (adjacent split).of_began
  · intro before s path coverage after split
    have later : before ≠ [] := by
      rintro rfl
      obtain ⟨_, ⟨⟩⟩ := first split
    obtain ⟨earlier, p, rfl, next⟩ := preceded later split
    exact ⟨earlier, by rw [Inquiry.eq_began next.1 next.2]⟩
  · intro before s format report after split
    cases after with
    | nil => rfl
    | cons q after => exact absurd (adjacent split) Inquiry.not_next_of_built

namespace Collector

variable {σ : Type}

/-- What the end of a test gives for it: the coverage that the recorder gave for the session's last
    window, which was begun for that test and is closed with it. -/
structure Attributed (earlier asked : List Inquiry) (id : String) (execution : Execution)
    (info : Attribution) : Prop where
  window : ∃ s calls, s.session = id ∧
    callsWith s.token earlier = calls ++ [.began s execution.path true] ∧
    asked = [.closed s execution.path (some info.coverage)]
  path : info.path = execution.path
  status : info.status = some execution.status
  message : info.message = execution.message

theorem Used.attributed {format : Report.Format} {earlier asked : List Inquiry} {c c' : Collector}
    {id : String} {execution : Execution} {retrieve : Bool} {result : Result} {info : Attribution}
    (used : Used earlier c) (numbered : c.arena.Numbered)
    (step : Step format c (.endTest id execution retrieve) asked result c')
    (answer : result = .ok (.attribution (some info))) :
    retrieve = true ∧ Attributed earlier asked id execution info := by
  cases step with
  | endUnknown | endNotRunning | notClosed => cases answer
  | closed found running held coverage =>
    cases retrieve with
    | false => cases answer
    | true =>
      cases answer
      obtain ⟨q, last, about, left⟩ := used.ready _ _ _ found held
      rw [running] at left
      obtain ⟨calls, split⟩ := List.getLast?_eq_some_iff.mp last
      rw [Inquiry.eq_began about left] at split
      exact ⟨rfl, ⟨_, calls, numbered.own _ _ held, split, rfl⟩, rfl, rfl, rfl⟩

structure OwnWindows (past : List Passage) : Prop where
  windowed : ∀ token, Windowed (callsWith token (inquiries past))
  attributed : ∀ before p later id execution retrieve info, past = before ++ p :: later →
    p.turn.operation = .endTest id execution retrieve →
    p.turn.result = .ok (.attribution (some info)) →
    retrieve = true ∧ Attributed (inquiries before) p.turn.asked id execution info

/-- Whatever is asked of a collector, and whatever its recorder answers, windows are never nested,
    closed twice or closed for another test. -/
theorem windows_belong_to_tests (setup : Setup σ) (ops : List Operation) (w : σ)
    (fresh : (issued (inquiries (passages setup ops {} w))).Nodup) :
    OwnWindows (passages setup ops {} w) := by
  have reached := Reached.new.passages setup ops w
  rw [List.nil_append] at reached
  constructor
  · exact (reached.used fresh).inTurn.windowed
  · intro before p later id execution retrieve info split operation answer
    obtain ⟨earlier, step⟩ := reached.at_passage split
    rw [split] at fresh
    have fresh' := fresh_before fresh
    rw [operation] at step
    exact (earlier.used fresh').attributed (earlier.accounted fresh').stocked.numbered step answer

def Operation.retrieving : List Operation :=
  [.register ⟨none, true, none⟩, .startTest "0" "a", .endTest "0" ⟨"a", 5, .passed, none⟩ true,
    .startTest "0" "b", .endTest "0" ⟨"b", 7, .failure, none⟩ true, .startTest "0" "c",
    .endRun "0" true, .endTest "0" ⟨"c", 9, .passed, none⟩ true]

theorem unsteady_windows_belong_to_tests :
    (issued (inquiries (passages .unsteady Operation.retrieving {} 0))).Nodup ∧
      OwnWindows (passages .unsteady Operation.retrieving {} 0) :=
  have fresh : (issued (inquiries (passages .unsteady Operation.retrieving {} 0))).Nodup := by
    decide +kernel
  ⟨fresh, windows_belong_to_tests .unsteady Operation.retrieving 0 fresh⟩

/-- The recorder answers the first of two ends, and the last window is closed by the report. -/
example :
    let s : Snapshot := ⟨"0", 1⟩
    callsWith 1 (inquiries (passages .unsteady Operation.retrieving {} 0)) =
      [.reset s, .began s "a" true, .closed s "a" (some "src/a.c:1-2"), .began s "b" true,
        .closed s "b" none, .began s "c" true, .built s .testwise (some "report")] := by
  decide +kernel

end Collector

end TestImpact
