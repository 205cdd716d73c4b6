import TestImpact.Proofs.Collection.Inquiries

namespace TestImpact

def Inquiry.session? : Inquiry → Option String
  | reset s | began s .. | closed s .. | built s .. => some s.session
  | _ => none

/-- The open window of a session once an inquiry is answered. A window that was to be closed is no
    longer open, whatever the recorder answered. -/
def Inquiry.window (session : String) (before : Option String) : Inquiry → Option String
  | began s path true => if s.session = session then some path else before
  | closed s _ _ => if s.session = session then none else before
  | _ => before

def openWindow (session : String) (asked : List Inquiry) : Option String :=
  asked.foldl (Inquiry.window session) none

def issued (asked : List Inquiry) : List String :=
  asked.filterMap fun
    | .issued id => id
    | _ => none

theorem openWindow_append (session : String) (asked more : List Inquiry) :
    openWindow session (asked ++ more) =
      more.foldl (Inquiry.window session) (openWindow session asked) :=
  List.foldl_append

theorem issued_append (asked more : List Inquiry) :
    issued (asked ++ more) = issued asked ++ issued more :=
  List.filterMap_append

theorem Inquiry.window_of_other {session : String} {q : Inquiry} (other : q.session? ≠ some session)
    (before : Option String) : q.window session before = before := by
  cases q with
  | began s path succeeded =>
    have : s.session ≠ session := fun same => other (by simp [session?, same])
    cases succeeded <;> simp [window, this]
  | closed s path coverage =>
    have : s.session ≠ session := fun same => other (by simp [session?, same])
    simp [window, this]
  | _ => rfl

theorem openWindow_append_of_other {session : String} {asked more : List Inquiry}
    (other : ∀ q ∈ more, q.session? ≠ some session) :
    openWindow session (asked ++ more) = openWindow session asked := by
  rw [openWindow_append]
  induction more generalizing asked with
  | nil => rfl
  | cons q more ih =>
    rw [List.foldl_cons, Inquiry.window_of_other (other q (by simp))]
    exact ih fun q member => other q (List.mem_cons_of_mem _ member)

theorem openWindow_append_of_none {session : String} {asked more : List Inquiry}
    (closed : openWindow session asked = none)
    (quiet : ∀ s path, .began s path true ∉ more) : openWindow session (asked ++ more) = none := by
  rw [openWindow_append, closed]
  induction more with
  | nil => rfl
  | cons q more ih =>
    have still : q.window session none = none := by
      cases q with
      | began s path succeeded =>
        cases succeeded with
        | true => exact absurd List.mem_cons_self (quiet s path)
        | false => rfl
      | closed s path coverage => simp [Inquiry.window]
      | _ => rfl
    rw [List.foldl_cons, still]
    exact ih fun s path member => quiet s path (List.mem_cons_of_mem _ member)

theorem Collector.Ending.session {s : Snapshot} {q : Inquiry} (ending : Collector.Ending s q)
    {other : String} (about : q.session? = some other) : other = s.session := by
  cases q with
  | built s' format report =>
    cases ending
    exact (Option.some.inj about).symm
  | reset | began | closed => exact ending.elim
  | _ => cases about

theorem Collector.Ending.issued_eq_nil {s : Snapshot} {asked : List Inquiry}
    (ending : ∀ q ∈ asked, Collector.Ending s q) : issued asked = [] := by
  apply List.filterMap_eq_nil_iff.mpr
  intro q member
  cases q with
  | issued id => exact (ending _ member).elim
  | _ => rfl

def ReportsWhenClosed (asked : List Inquiry) : Prop :=
  ∀ before s format report after, asked = before ++ .built s format report :: after →
    openWindow s.session before = none

theorem ReportsWhenClosed.append {asked more : List Inquiry} (closed : ReportsWhenClosed asked)
    (next : ∀ before s format report after, more = before ++ .built s format report :: after →
      openWindow s.session (asked ++ before) = none) : ReportsWhenClosed (asked ++ more) := by
  intro before s format report after split
  rcases List.append_eq_append_iff.mp split with ⟨first, rfl, later⟩ | ⟨tail, rfl, here⟩
  · exact next first s format report after later
  · cases tail with
    | nil => simpa using next [] s format report after here.symm
    | cons q tail =>
      cases here
      exact closed before s format report tail rfl

theorem ReportsWhenClosed.append_of_none {asked more : List Inquiry}
    (closed : ReportsWhenClosed asked) (none : ∀ s format report, .built s format report ∉ more) :
    ReportsWhenClosed (asked ++ more) :=
  closed.append fun before s format report after split =>
    absurd (by simp [split]) (none s format report)

end TestImpact
