import TestImpact.Proofs.Action.Parallel
import TestImpact.Proofs.Delivery.Upload
import TestImpact.Proofs.Session.Operations

namespace TestImpact

open Action

variable {σ ω : Type}

def Web.Request.unsigned (q : Web.Request) : Web.Request :=
  { q with headers := q.headers.filter (·.1 ≠ "Authorization") }

def Server.posting (server : Server ω) : Web.Http (ω × List Web.Request) where
  send request := fun (w, posted) =>
    let (answer, w') := server request w
    ⟨answer.mapError .failed, (w', posted ++ [request]), []⟩

def SameUnsigned (s s' : ω × List Web.Request) : Prop :=
  s.1 = s'.1 ∧ s.2.map Web.Request.unsigned = s'.2.map Web.Request.unsigned

def Store.Parallel (r : σ → σ → Prop) (s s' : Store σ) : Prop :=
  s.description = s'.description ∧ ∀ report, Action.Parallel r (s.store report) (s'.store report)

def Store.onFst (s : Store ω) : Store (ω × σ) :=
  ⟨s.description, fun report => (s.store report).onFst⟩

inductive BuiltParallel (r : σ → σ → Prop) :
    Except Refusal (Store σ) → Except Refusal (Store σ) → Prop
  | refused (reason : Refusal) : BuiltParallel r (.error reason) (.error reason)
  | built {s s' : Store σ} (parallel : s.Parallel r s') : BuiltParallel r (.ok s) (.ok s')

theorem BuiltParallel.map {r : σ → σ → Prop} {x y : Except Refusal (Store σ)}
    {f g : Store σ → Store σ} (both : BuiltParallel r x y)
    (keeps : ∀ s s', s.Parallel r s' → (f s).Parallel r (g s')) :
    BuiltParallel r (f <$> x) (g <$> y) := by
  cases both with
  | refused reason => exact .refused reason
  | built parallel => exact .built (keeps _ _ parallel)

theorem Action.Parallel.onFst {ε α : Type} (x : Action ε ω α) :
    Parallel SameUnsigned x.onFst x.onFst :=
  .zoom (fun _ _ same => same.1) (fun _ _ _ same => ⟨rfl, same.2⟩) x

theorem Store.Parallel.onFst (s : Store ω) : Store.Parallel SameUnsigned s.onFst s.onFst :=
  ⟨rfl, fun report => .onFst (s.store report)⟩

theorem Store.Parallel.orElse {r : σ → σ → Prop} {a a' b b' : Store σ} (first : a.Parallel r a')
    (second : b.Parallel r b') : (a.orElse b).Parallel r (a'.orElse b') := by
  constructor
  · show s!"{a.description} (fallback: {b.description})" = _
    rw [first.1, second.1]
    rfl
  intro report
  unfold Store.orElse
  rw [first.1, second.1]
  refine .bind (first.2 report).attempt fun tried => ?_
  cases tried with
  | ok delivered => exact .done delivered
  | error e =>
    refine .bind (.log _ _) fun _ => .bind (second.2 report).attempt fun kept => ?_
    cases kept with
    | ok delivered => exact .done delivered
    | error e => exact .bind (.log _ _) fun _ => .fail e

theorem directoryStore_parallel (disk : Files.Disk ω) (clock : Clock ω) (directory : Files.Path)
    (format : Report.Format) :
    (directoryStore (disk.within Prod.fst fun w s => (w, s.2)) clock.onFst directory
      format).Parallel SameUnsigned
      (directoryStore (disk.within Prod.fst fun w s => (w, s.2)) clock.onFst directory format) :=
  ⟨rfl, fun _ =>
    .bind (.mapError _ (.onFst _)) fun _ => .bind (.lift (.onFst _)) fun _ =>
      .bind (.mapError _ (.onFst _)) fun _ => .bind (.log _ _) fun _ => .done _⟩

namespace UploadTarget

variable {t : UploadTarget} {key other : String} {server server' : Server ω}

def keyed (t : UploadTarget) (key : String) : UploadTarget := { t with accessKey := some key }

/-- A request with the one key is answered as the request with the other one is. -/
def AnsweredAlike (t : UploadTarget) (key other : String) (server server' : Server ω) : Prop :=
  ∀ url boundary report, server ((t.keyed key).request url boundary report) =
    server' ((t.keyed other).request url boundary report)

theorem unsigned_request_keyed (t : UploadTarget) (key other : String) (url : Web.Url)
    (boundary report : String) :
    ((t.keyed key).request url boundary report).unsigned =
      ((t.keyed other).request url boundary report).unsigned := by
  cases named : t.user <;>
    simp [Web.Request.unsigned, request, form, authorization, keyed, named, List.filter_append]

theorem posting_parallel (answers : t.AnsweredAlike key other server server') (url : Web.Url)
    (boundary report : String) :
    Action.Parallel SameUnsigned (server.posting.send ((t.keyed key).request url boundary report))
      (server'.posting.send ((t.keyed other).request url boundary report)) := by
  rintro ⟨w, posted⟩ ⟨_, posted'⟩ ⟨rfl, same⟩
  dsimp only [Server.posting]
  rw [← answers url boundary report]
  refine ⟨rfl, rfl, rfl, ?_⟩
  rw [List.map_append, List.map_append, same, List.map_singleton, List.map_singleton,
    unsigned_request_keyed]

theorem call_parallel (answers : t.AnsweredAlike key other server server') (url : Web.Url)
    (boundary report : String) :
    Action.Parallel SameUnsigned (server.posting.call ((t.keyed key).request url boundary report))
      (server'.posting.call ((t.keyed other).request url boundary report)) := by
  refine .bind (.mapError _ (posting_parallel answers url boundary report)) fun response => ?_
  by_cases wrong : Web.firstErrorStatus ≤ response.status
  · simp only [if_pos wrong]
    exact .fail _
  · simp only [if_neg wrong]
    exact .done response

theorem send_parallel (answers : t.AnsweredAlike key other server server') (url : Web.Url)
    (freshToken : Action Empty ω String) (report : String) :
    Action.Parallel SameUnsigned ((t.keyed key).send url server.posting freshToken.onFst report)
      ((t.keyed other).send url server'.posting freshToken.onFst report) := by
  refine .bind (.lift (.onFst freshToken)) fun token => .bind (.log _ _) fun _ =>
    .bind (.mapError _ (call_parallel answers _ _ _)) fun response => ?_
  by_cases success : isSuccess response.status
  · simp only [if_pos success]
    exact .bind (.log _ _) fun _ => .done _
  · simp only [if_neg success]
    exact .fail _

theorem store_parallel (answers : t.AnsweredAlike key other server server')
    (freshToken : Action Empty ω String) :
    BuiltParallel SameUnsigned ((t.keyed key).store server.posting freshToken.onFst)
      ((t.keyed other).store server'.posting freshToken.onFst) := by
  have checked : (t.keyed key).validate = (t.keyed other).validate := rfl
  have addressed : (t.keyed key).uploadUrl = (t.keyed other).uploadUrl := rfl
  unfold UploadTarget.store
  rw [checked, addressed]
  cases (t.keyed other).validate with
  | error reason => exact .refused reason
  | ok =>
    cases (t.keyed other).uploadUrl with
    | error reason => exact .refused reason
    | ok url => exact .built ⟨rfl, send_parallel answers url freshToken⟩

end UploadTarget

/-- Whatever is seen of an upload, alone or in front of any fallback, is the same under another
    access key, the credentials in the request apart. -/
theorem access_key_stays_in_credentials {t : UploadTarget} {key other : String}
    {server server' : Server ω} (answers : t.AnsweredAlike key other server server')
    (freshToken : Action Empty ω String) :
    let uploading := (t.keyed key).store server.posting freshToken.onFst
    let uploading' := (t.keyed other).store server'.posting freshToken.onFst
    BuiltParallel SameUnsigned uploading uploading' ∧
      (∀ fallback : Store ω, BuiltParallel SameUnsigned ((·.orElse fallback.onFst) <$> uploading)
        ((·.orElse fallback.onFst) <$> uploading')) ∧
      ∀ (place : FallbackPlace) (disk : Files.Disk ω) (clock : Clock ω),
        let beside := disk.within Prod.fst fun w s => (w, s.2)
        BuiltParallel SameUnsigned
          ((t.keyed key).storeWithFallback place server.posting freshToken.onFst beside clock.onFst)
          ((t.keyed other).storeWithFallback place server'.posting freshToken.onFst beside
            clock.onFst) := by
  have built := UploadTarget.store_parallel answers freshToken
  refine ⟨built, fun fallback => built.map fun _ _ parallel => parallel.orElse (.onFst fallback),
    fun place disk clock => ?_⟩
  exact built.map fun _ _ parallel => parallel.orElse (directoryStore_parallel ..)

def Server.admitting (known : List (String × String)) : Server Nat := fun request taken =>
  if request.headers.any known.contains then (.ok ⟨200, .whole []⟩, taken + 1)
  else (.ok ⟨401, .whole []⟩, taken)

/-- `ci` with one of two keys, to a server that knows both. -/
theorem two_known_keys_stay_in_credentials :
    let t := { UploadTarget.sample with user := some "ci" }
    let server := Server.admitting
      [("Authorization", "Basic Y2k6b25l"), ("Authorization", "Basic Y2k6dHdv")]
    t.AnsweredAlike "one" "two" server server ∧
      BuiltParallel SameUnsigned ((t.keyed "one").store server.posting (Action.done "t").onFst)
        ((t.keyed "two").store server.posting (Action.done "t").onFst) := by
  intro t server
  have credentials : (t.keyed "one").authorization = [("Authorization", "Basic Y2k6b25l")] ∧
      (t.keyed "two").authorization = [("Authorization", "Basic Y2k6dHdv")] := by
    decide +kernel
  have answers : t.AnsweredAlike "one" "two" server server := by
    intro url boundary report
    funext taken
    simp [server, Server.admitting, UploadTarget.request, credentials]
  exact ⟨answers, (access_key_stays_in_credentials answers _).1⟩

end TestImpact
