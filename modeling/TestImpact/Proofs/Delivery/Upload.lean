import TestImpact.Command.Delivery
import TestImpact.Proofs.Action.Outcome
import TestImpact.Proofs.Delivery.Names

namespace TestImpact

open Action Files Text.Utf8

variable {σ τ : Type}

/-- What comes of a request to a server: the answer that stands at the end of all redirects, or
    none that arrives. -/
abbrev Server (σ : Type) := Web.Request → σ → Except Web.TransportFault Web.Response × σ

/-- The way to a server, beside a file tree. The requests that are made are written down. -/
def Server.http (server : Server σ) : Web.Http (FileTree × σ × List Web.Request) where
  send request := fun (t, w, posted) =>
    let (answer, w') := server request w
    ⟨answer.mapError .failed, (t, w', posted ++ [request]), []⟩

def treeDisk : Disk (FileTree × τ) := FileTree.disk.within Prod.fst fun t w => (t, w.2)

def Clock.at (now : Int) : Clock σ := ⟨.done now, .done 0⟩

def Accepted (answer : Except Web.TransportFault Web.Response) : Prop :=
  ∃ response, answer = .ok response ∧ 200 ≤ response.status ∧ response.status ≤ 299

@[simp] theorem outcome_ensureDirectory (directory : Path) (t : FileTree) (w : τ) :
    (treeDisk.ensureDirectory directory).outcome (t, w) =
      ((t.ensureDirectory directory).2.mapError .failed, (t.ensureDirectory directory).1, w) := by
  show ((FileTree.disk.ensureDirectory directory).zoom _ _).outcome (t, w) = _
  rcases made : t.ensureDirectory directory with ⟨t', cause | _⟩ <;>
    simp [outcome, zoom, FileTree.disk, made]

@[simp] theorem outcome_write (path : Path) (content : List UInt8) (t : FileTree) (w : τ) :
    (treeDisk.write path content).outcome (t, w) =
      match t.write path content with
      | .ok t' => (.ok (), t', w)
      | .error cause => (.error (.failed cause), t, w) := by
  show ((FileTree.disk.write path content).zoom _ _).outcome (t, w) = _
  cases wrote : t.write path content <;> simp [outcome, zoom, FileTree.disk, wrote]

@[simp] theorem outcome_readText (path : Path) (t : FileTree) (w : τ) :
    (treeDisk.readText path).outcome (t, w) = ((t.readText path).mapError .failed, t, w) := by
  show ((FileTree.disk.readText path).zoom _ _).outcome (t, w) = _
  cases read : t.readText path <;> simp [outcome, zoom, FileTree.disk, read]

@[simp] theorem outcome_http_send (server : Server σ) (request : Web.Request) (t : FileTree) (w : σ)
    (posted : List Web.Request) :
    (server.http.send request).outcome (t, w, posted) =
      ((server request w).1.mapError .failed, t, (server request w).2, posted ++ [request]) := rfl

theorem outcome_send (target : UploadTarget) (url : Web.Url) (server : Server σ)
    (token report : String) (t : FileTree) (w : σ) (posted : List Web.Request) :
    let request := target.request url (UploadTarget.boundaryOf token) report
    let next := (target.send url server.http (.done token) report).outcome (t, w, posted)
    next.2 = (t, (server request w).2, posted ++ [request]) ∧
      (Accepted (server request w).1 → next.1 = .ok (.uploaded (target.describe url))) ∧
      (¬ Accepted (server request w).1 → ∃ e, next.1 = .error (.failed e)) := by
  intro request next
  rcases asked : server request w with ⟨fault | response, w'⟩
  · have refused : ¬ Accepted (.error fault) := fun ⟨_, same, _⟩ => nomatch same
    have unreached : next = (.error (.failed (.unreached (target.describe url)
        (fault.text request.url))), t, w', posted ++ [request]) := by
      simp [next, UploadTarget.send, Web.Http.call, asked, request]
    rw [unreached]
    exact ⟨rfl, fun accepted => absurd accepted refused, fun _ => ⟨_, rfl⟩⟩
  · have result : next = (if 400 ≤ response.status then .error (.failed (.rejected
          (target.describe url) response.status response.body.textOrNothing))
        else if 200 ≤ response.status ∧ response.status < 300 then
          .ok (.uploaded (target.describe url))
        else .error (.failed (.rejected (target.describe url) response.status
          response.body.textOrNothing)), t, w', posted ++ [request]) := by
      -- From 400 on the client of the transport reports an error, below it the target decides.
      by_cases wrong : 400 ≤ response.status
      · simp [next, UploadTarget.send, Web.Http.call, Web.firstErrorStatus, asked, request, wrong]
      · by_cases success : 200 ≤ response.status ∧ response.status < 300 <;>
          simp [next, UploadTarget.send, UploadTarget.isSuccess, Web.Http.call,
            Web.firstErrorStatus, asked, request, wrong, success]
    rw [result]
    refine ⟨rfl, ?_, fun refused => ?_⟩
    · rintro ⟨_, same, low, high⟩
      cases same
      dsimp only
      rw [if_neg (by omega), if_pos ⟨low, by omega⟩]
    · by_cases wrong : 400 ≤ response.status
      · exact ⟨_, if_pos wrong⟩
      · have other : ¬ (200 ≤ response.status ∧ response.status < 300) := fun success =>
          refused ⟨response, rfl, success.1, by omega⟩
        exact ⟨_, (if_neg wrong).trans (if_neg other)⟩

theorem outcome_orElse (first second : Store τ) (report : String) (w : τ) :
    ((first.orElse second).store report).outcome w =
      match (first.store report).outcome w with
      | (.ok delivered, w') => (.ok delivered, w')
      | (.error (.failed _), w') => (second.store report).outcome w'
      | (.error .unwound, w') => (.error .unwound, w') := by
  unfold Store.orElse
  rcases tried : (first.store report).outcome w with ⟨(e | _) | delivered, w'⟩
  · rcases kept : (second.store report).outcome w' with ⟨(e' | _) | delivered, w''⟩ <;>
      simp [tried, kept]
  · simp [tried]
  · simp [tried]

theorem outcome_directoryStore_told {clock : Clock (FileTree × τ)} {now : Int} {w : τ}
    (told : ∀ t, clock.epochMillis.outcome (t, w) = (.ok now, t, w)) (directory : Path)
    (format : Report.Format) (report : String) (t : FileTree) :
    ((directoryStore treeDisk clock directory format).store report).outcome (t, w) =
      let path := directory.child (encode (format.fileName now))
      match t.ensureDirectory directory with
      | (t', .error cause) => (.error (.failed (.unwritten directory cause)), t', w)
      | (t', .ok ()) =>
        match t'.write path (encode report) with
        | .error cause => (.error (.failed (.unwritten path cause)), t', w)
        | .ok t'' => (.ok (.written path), t'', w) := by
  unfold directoryStore
  rcases made : t.ensureDirectory directory with ⟨t', cause | _⟩
  · simp [made]
  · cases wrote : t'.write (directory.child (encode (format.fileName now))) (encode report) <;>
      simp [made, wrote, told]

theorem outcome_directoryStore (now : Int) (directory : Path) (format : Report.Format)
    (report : String) (t : FileTree) (w : τ) :
    ((directoryStore treeDisk (.at now) directory format).store report).outcome (t, w) =
      let path := directory.child (encode (format.fileName now))
      match t.ensureDirectory directory with
      | (t', .error cause) => (.error (.failed (.unwritten directory cause)), t', w)
      | (t', .ok ()) =>
        match t'.write path (encode report) with
        | .error cause => (.error (.failed (.unwritten path cause)), t', w)
        | .ok t'' => (.ok (.written path), t'', w) :=
  outcome_directoryStore_told (fun _ => rfl) directory format report t

theorem outcome_upload (store : Store (FileTree × τ)) (file : Path) (t : FileTree) (w : τ) :
    (Command.upload treeDisk store file).outcome (t, w) =
      match t.readText file with
      | .error cause => (.error (.failed (.unreadReport file cause)), t, w)
      | .ok report =>
        match (store.store report).outcome (t, w) with
        | (.ok delivered, p) => (.ok s!"Report {file.display} {delivered.text}\n", p)
        | (.error (.failed e), p) => (.error (.failed (.undelivered file e)), p)
        | (.error .unwound, p) => (.error .unwound, p) := by
  unfold Command.upload
  cases read : t.readText file with
  | error cause => simp [read]
  | ok report =>
    rcases stored : (store.store report).outcome (t, w) with ⟨(e | _) | delivered, p⟩ <;>
      simp [read, stored]

/-- How the upload of the report in a file ends: the report is at the server, or in the file that
    the fallback keeps it in, or the error says why it could not be read or not be kept. -/
inductive UploadEnds (server : Server σ) (target : UploadTarget) (url : Web.Url) (token : String)
    (directory : Path) (now : Int) (file : Path) (t : FileTree) (w : σ)
    (posted : List Web.Request) :
    Except (Halt Command.Failure) String × FileTree × σ × List Web.Request → Prop
  | unread {cause : Cause} (read : t.readText file = .error cause) :
      UploadEnds server target url token directory now file t w posted
        (.error (.failed (.unreadReport file cause)), t, w, posted)
  | uploaded {report : String} {request : Web.Request} (read : t.readText file = .ok report)
      (sent : request = target.request url (UploadTarget.boundaryOf token) report)
      (accepted : Accepted (server request w).1) :
      UploadEnds server target url token directory now file t w posted
        (.ok s!"Report {file.display} {(Delivered.uploaded (target.describe url)).text}\n",
          t, (server request w).2, posted ++ [request])
  | kept {report : String} {request : Web.Request} {bytes : List UInt8} {path : Path}
      {t' t'' : FileTree} (read : t.readText file = .ok report)
      (sent : request = target.request url (UploadTarget.boundaryOf token) report)
      (refused : ¬ Accepted (server request w).1)
      (named : path = directory.child (encode (target.format.fileName now)))
      (made : t.ensureDirectory directory = (t', .ok ())) (wrote : t'.write path bytes = .ok t'')
      (content : t.read file = .ok bytes)
      (holds : t''.read path = .ok bytes ∨
        t.Swallows directory (encode (target.format.fileName now))) :
      UploadEnds server target url token directory now file t w posted
        (.ok s!"Report {file.display} {(Delivered.written path).text}\n",
          t'', (server request w).2, posted ++ [request])
  | noDirectory {report : String} {request : Web.Request} {cause : Cause} {t' : FileTree}
      (read : t.readText file = .ok report)
      (sent : request = target.request url (UploadTarget.boundaryOf token) report)
      (refused : ¬ Accepted (server request w).1)
      (failed : t.ensureDirectory directory = (t', .error cause)) :
      UploadEnds server target url token directory now file t w posted
        (.error (.failed (.undelivered file (.unwritten directory cause))),
          t', (server request w).2, posted ++ [request])
  | unkept {report : String} {request : Web.Request} {cause : Cause} {path : Path} {t' : FileTree}
      (read : t.readText file = .ok report)
      (sent : request = target.request url (UploadTarget.boundaryOf token) report)
      (refused : ¬ Accepted (server request w).1)
      (named : path = directory.child (encode (target.format.fileName now)))
      (made : t.ensureDirectory directory = (t', .ok ()))
      (failed : t'.write path (encode report) = .error cause) :
      UploadEnds server target url token directory now file t w posted
        (.error (.failed (.undelivered file (.unwritten path cause))),
          t', (server request w).2, posted ++ [request])

theorem storeWithFallback_eq {target : UploadTarget} {place : FallbackPlace} {http : Web.Http τ}
    {freshToken : Action Empty τ String} {disk : Disk τ} {clock : Clock τ} {store : Store τ}
    (accepted : target.storeWithFallback place http freshToken disk clock = .ok store) :
    ∃ url, target.uploadUrl = .ok url ∧
      store = Store.orElse ⟨target.describe url, target.send url http freshToken⟩
        (directoryStore disk clock place.directory target.format) := by
  unfold UploadTarget.storeWithFallback UploadTarget.store at accepted
  obtain ⟨_, remote, accepted⟩ := bind_eq_ok.mp accepted
  obtain ⟨_, -, remote⟩ := bind_eq_ok.mp remote
  obtain ⟨url, found, remote⟩ := bind_eq_ok.mp remote
  cases remote
  cases accepted
  exact ⟨url, found, rfl⟩

theorem bytes_of_readText {t : FileTree} {file : Path} {report : String}
    (read : t.readText file = .ok report) : t.read file = .ok (encode report) := by
  unfold FileTree.readText at read
  obtain ⟨content, bytes, read⟩ := bind_eq_ok.mp read
  cases decoded : decode? content with
  | none => simp [decoded] at read
  | some s =>
    simp only [decoded, pure_eq_ok, Except.ok.injEq] at read
    rw [bytes, ← read, encode_of_decode? decoded]

/-- No report is lost silently: whatever the server makes of it, and whatever stands in the way on
    the disk, it is delivered or kept, or the error says that it is not. -/
theorem upload_loses_nothing {server : Server σ} {target : UploadTarget} {place : FallbackPlace}
    {token : String} {now : Int} {store : Store (FileTree × σ × List Web.Request)}
    (accepted : target.storeWithFallback place server.http (.done token) treeDisk (.at now) =
      .ok store)
    {t : FileTree} (unlinked : t.Unlinked place.directory (encode (target.format.fileName now)))
    (file : Path) (w : σ) (posted : List Web.Request) :
    ∃ url, target.uploadUrl = .ok url ∧
      (∀ report, (target.request url (UploadTarget.boundaryOf token) report).method = "POST") ∧
      UploadEnds server target url token place.directory now file t w posted
        ((Command.upload treeDisk store file).outcome (t, w, posted)) := by
  obtain ⟨url, found, rfl⟩ := storeWithFallback_eq accepted
  refine ⟨url, found, fun _ => rfl, ?_⟩
  rw [outcome_upload]
  cases read : t.readText file with
  | error cause => exact .unread read
  | ok report =>
    obtain ⟨left, success, failure⟩ := outcome_send target url server token report t w posted
    rcases sent : (target.send url server.http (.done token) report).outcome (t, w, posted)
      with ⟨result, p⟩
    rw [sent] at left success failure
    simp only at left success failure
    subst left
    simp only [outcome_orElse, sent]
    by_cases answered : Accepted
      (server (target.request url (UploadTarget.boundaryOf token) report) w).1
    · rw [success answered]
      exact .uploaded read rfl answered
    · obtain ⟨e, rejected⟩ := failure answered
      rw [rejected]
      simp only [outcome_directoryStore]
      rcases made : t.ensureDirectory place.directory with ⟨t', cause | _⟩
      · exact .noDirectory read rfl answered made
      · cases wrote : t'.write (place.directory.child (encode (target.format.fileName now)))
          (encode report) with
        | error cause =>
          simp only [wrote]
          exact .unkept read rfl answered rfl made wrote
        | ok t'' =>
          simp only [wrote]
          exact .kept read rfl answered rfl made wrote (bytes_of_readText read)
            (unlinked.read (Report.Format.proper_fileName ..) made wrote)

def Server.silent : Server Nat := fun _ n => (.error (.networkError "Unexpected EOF"), n + 1)

def UploadTarget.sample : UploadTarget where
  url := "http://reports.test"
  project := "p"
  partition := "unit"
  revision := .id "r1"
  format := .jacoco

def Files.FileTree.sample : FileTree :=
  ({} : FileTree).put [encode "report.xml"] (.file (encode "<report/>"))

theorem silent_server_loses_nothing :
    ∃ store, UploadTarget.sample.storeWithFallback ⟨.ofString "kept"⟩ Server.silent.http (.done "t")
        treeDisk (.at 5) = .ok store ∧
      FileTree.sample.Unlinked (.ofString "kept") (encode (Report.Format.jacoco.fileName 5)) ∧
      ∃ url, UploadTarget.sample.uploadUrl = .ok url ∧
        (∀ report, (UploadTarget.sample.request url (UploadTarget.boundaryOf "t") report).method =
          "POST") ∧
        UploadEnds Server.silent UploadTarget.sample url "t" (.ofString "kept") 5
          (.ofString "report.xml") FileTree.sample 0 []
          ((Command.upload treeDisk store (.ofString "report.xml")).outcome
            (FileTree.sample, 0, [])) := by
  have unlinked : FileTree.sample.Unlinked (.ofString "kept")
      (encode (Report.Format.jacoco.fileName 5)) := by
    have entry : ((FileTree.sample.ensureDirectory (.ofString "kept")).1.entry (.ofString "kept")
        (encode (Report.Format.jacoco.fileName 5))).toOption =
          some [encode "kept", encode (Report.Format.jacoco.fileName 5)] := by decide +kernel
    have vacant : FileTree.sample.node? [encode "kept", encode (Report.Format.jacoco.fileName 5)] =
        none := by decide +kernel
    intro place found target
    rw [found] at entry
    cases entry
    rw [vacant]
    simp
  have sound : (UploadTarget.sample.storeWithFallback ⟨.ofString "kept"⟩ Server.silent.http
      (.done "t") treeDisk (.at 5)).isOk := by decide +kernel
  cases accepted : UploadTarget.sample.storeWithFallback ⟨.ofString "kept"⟩ Server.silent.http
      (.done "t") treeDisk (.at 5) with
  | error r =>
    rw [accepted] at sound
    cases sound
  | ok store => exact ⟨store, rfl, unlinked, upload_loses_nothing accepted unlinked _ 0 []⟩

end TestImpact
