import TestImpact.Proofs.Delivery.Upload
import TestImpact.Proofs.Files.Frames
import TestImpact.Proofs.Files.Stored

namespace TestImpact

open Action Files Files.FileTree Text.Utf8

def Clock.shown : Clock (FileTree × Int) := ⟨.look Prod.snd, .done 0⟩

theorem Report.Format.fileName_injective (format : Report.Format) {now later : Int}
    (same : encode (format.fileName now) = encode (format.fileName later)) : now = later := by
  have names : stampedName format.stem now format.extension =
      stampedName format.stem later format.extension := encode_injective same
  exact stampedName_injective now names

structure Filing where
  now : Int
  report : String
  answer : Except (Halt DeliveryError) Delivered

def Filing.last (now : Int) : List Filing → Option String
  | [] => none
  | f :: filings =>
    (last now filings).or (if f.now = now ∧ f.answer.isOk then some f.report else none)

def fileReport (directory : Path) (format : Report.Format) (t : FileTree) (now : Int)
    (report : String) : Except (Halt DeliveryError) Delivered × FileTree :=
  let (answer, t', _) :=
    ((directoryStore treeDisk .shown directory format).store report).outcome (t, now)
  (answer, t')

def fileReports (directory : Path) (format : Report.Format) :
    FileTree → List (Int × String) → List Filing × FileTree
  | t, [] => ([], t)
  | t, (now, report) :: calls =>
    let (answer, t') := fileReport directory format t now report
    let (filings, t'') := fileReports directory format t' calls
    (⟨now, report, answer⟩ :: filings, t'')

section Filing

variable {directory : Path} {format : Report.Format} {t t' t'' : FileTree} {now : Int}
  {report : String} {calls : List (Int × String)} {filings : List Filing} {d place : Location}

theorem fileReport_eq (directory : Path) (format : Report.Format) (t : FileTree) (now : Int)
    (report : String) :
    fileReport directory format t now report =
      let path := directory.child (encode (format.fileName now))
      match t.ensureDirectory directory with
      | (t', .error cause) => (.error (.failed (.unwritten directory cause)), t')
      | (t', .ok ()) =>
        match t'.write path (encode report) with
        | .error cause => (.error (.failed (.unwritten path cause)), t')
        | .ok t'' => (.ok (.written path), t'') := by
  have told (t : FileTree) : Clock.shown.epochMillis.outcome (t, now) = (.ok now, t, now) := rfl
  unfold fileReport
  rw [outcome_directoryStore_told told]
  rcases t.ensureDirectory directory with ⟨t', cause | _⟩
  · rfl
  · dsimp only
    cases t'.write (directory.child (encode (format.fileName now))) (encode report) <;> rfl

/-- Either the store fails and made directories at most, or it wrote to the file of its call. -/
theorem fileReport_cases (directory : Path) (format : Report.Format) (t : FileTree) (now : Int)
    (report : String) :
    let next := fileReport directory format t now report
    let path := directory.child (encode (format.fileName now))
    (∃ h, next.1 = .error h) ∧ AltersOnly (fun _ => False) t next.2 ∨
      next.1 = .ok (.written path) ∧
        ∃ t₁, AltersOnly (fun _ => False) t t₁ ∧ t₁.write path (encode report) = .ok next.2 := by
  intro next path
  have made := altersOnly_ensureDirectory t directory
  have ran : next = _ := fileReport_eq directory format t now report
  rcases ensured : t.ensureDirectory directory with ⟨t₁, cause | _⟩
  · simp only [ensured] at made ran
    rw [ran]
    exact .inl ⟨⟨_, rfl⟩, made⟩
  · cases wrote : t₁.write (directory.child (encode (format.fileName now))) (encode report) with
    | error cause =>
      simp only [ensured, wrote] at made ran
      rw [ran]
      exact .inl ⟨⟨_, rfl⟩, made⟩
    | ok t₂ =>
      simp only [ensured, wrote] at made ran
      rw [ran]
      exact .inr ⟨rfl, t₁, made, wrote⟩

theorem fileReport_ready (fits : Fits directory (encode (format.fileName now)))
    (ready : t.Ready directory (· = encode (format.fileName now))) (report : String) :
    (fileReport directory format t now report).1 =
      .ok (.written (directory.child (encode (format.fileName now)))) := by
  obtain ⟨t₁, d, made, opens, writable⟩ := ready
  have wrote := opens.write fits (writable _ rfl) (encode report)
  simp only [fileReport_eq, made, wrote]

theorem altersOnly_fileReport (directory : Path) (format : Report.Format) (t : FileTree)
    (now : Int) (report : String) :
    AltersOnly (fun _ => True) t (fileReport directory format t now report).2 := by
  have all {t t' : FileTree} {spots : Location → Prop} (alters : AltersOnly spots t t') :
      AltersOnly (fun _ => True) t t' := alters.mono fun _ _ => trivial
  rcases fileReport_cases directory format t now report with ⟨-, made⟩ | ⟨-, t₁, made, wrote⟩
  · exact all made
  · obtain ⟨spot, put⟩ := altersOnly_write wrote
    exact (all made).trans (all put)

theorem altersOnly_fileReports (directory : Path) (format : Report.Format) (t : FileTree)
    (calls : List (Int × String)) :
    AltersOnly (fun _ => True) t (fileReports directory format t calls).2 := by
  induction calls generalizing t with
  | nil => exact .refl _ t
  | cons call calls ih =>
    exact (altersOnly_fileReport directory format t call.1 call.2).trans (ih _)

/-- What one call comes to: it is refused and no file was touched, or it is taken and its file
    holds the report, unless that is a device. -/
inductive FilingEnds (directory : Path) (format : Report.Format) (t : FileTree) (now : Int)
    (report : String) : Except (Halt DeliveryError) Delivered × FileTree → Prop
  | refused {h : Halt DeliveryError} {t' : FileTree} (made : AltersOnly (fun _ => False) t t') :
      FilingEnds directory format t now report (.error h, t')
  | taken {d : Location} {t' : FileTree} (opens : t'.Opens directory d)
      (fits : Fits directory (encode (format.fileName now)))
      (alters : AltersOnly (· = d ++ [encode (format.fileName now)]) t t')
      (holds : t'.node? (d ++ [encode (format.fileName now)]) = some (.file (encode report)) ∨
        t.node? (d ++ [encode (format.fileName now)]) = some .sink) :
      FilingEnds directory format t now report
        (.ok (.written (directory.child (encode (format.fileName now)))), t')

theorem fileReport_ends
    (direct : ∀ d, (fileReport directory format t now report).2.Opens directory d → ∀ target,
      t.node? (d ++ [encode (format.fileName now)]) ≠ some (.link target)) :
    FilingEnds directory format t now report (fileReport directory format t now report) := by
  have cases := fileReport_cases directory format t now report
  rcases ran : fileReport directory format t now report with ⟨answer, t'⟩
  simp only [ran] at direct cases
  rcases cases with ⟨⟨h, rfl⟩, made⟩ | ⟨rfl, t₁, made, wrote⟩
  · exact .refused made
  obtain ⟨d, opens, fits, entry⟩ := write_child (format.proper_fileName now) wrote
  obtain ⟨_, put⟩ := altersOnly_write wrote
  have opens' := opens.altered put
  have made' : AltersOnly (· = d ++ [encode (format.fileName now)]) t t₁ :=
    made.mono fun _ => False.elim
  rcases entry with ⟨target, link⟩ | ⟨device, rfl⟩ | ⟨writable, rfl⟩
  · exact absurd (made.old _ _ link nofun nofun) (direct d opens' target)
  · exact .taken opens' fits made' (.inr (made.old _ _ device nofun nofun))
  · refine .taken opens' fits (made'.trans (writable.altersOnly _)) (.inl ?_)
    rw [node?_put writable.below, if_pos rfl]

structure Filed (directory : Path) (format : Report.Format) (t : FileTree) (filings : List Filing)
    (t' : FileTree) : Prop where
  named : ∀ f ∈ filings, ∀ delivered, f.answer = .ok delivered →
    delivered = .written (directory.child (encode (format.fileName f.now)))
  kept : ∀ now report, Filing.last now filings = some report →
    t'.lookUp (directory.child (encode (format.fileName now))) = .ok (.file (encode report)) ∨
      ∃ d, t'.Opens directory d ∧ t.node? (d ++ [encode (format.fileName now)]) = some .sink
  others : ∀ place, (∀ now d, (Filing.last now filings).isSome → t'.Opens directory d →
      place ≠ d ++ [encode (format.fileName now)]) →
    ∀ content, t'.node? place = some (.file content) ↔ t.node? place = some (.file content)

@[simp] theorem Filing.last_error (at' : Int) (h : Halt DeliveryError) :
    last at' (⟨now, report, .error h⟩ :: filings) = last at' filings := by simp [last]

@[simp] theorem Filing.last_ok (at' : Int) (delivered : Delivered) :
    last at' (⟨now, report, .ok delivered⟩ :: filings) =
      (last at' filings).or (if now = at' then some report else none) := by simp [last]

theorem Filed.nil (directory : Path) (format : Report.Format) (t : FileTree) :
    Filed directory format t [] t where
  named _ member := nomatch member
  kept _ _ last := nomatch last
  others _ _ _ := Iff.rfl

theorem Filed.refused (made : AltersOnly (fun _ => False) t t') (h : Halt DeliveryError)
    (filed : Filed directory format t' filings t'') :
    Filed directory format t (⟨now, report, .error h⟩ :: filings) t'' where
  named f member delivered answered := by
    rcases List.mem_cons.mp member with rfl | member
    · cases answered
    · exact filed.named f member delivered answered
  kept at' kept last := by
    rw [Filing.last_error] at last
    refine (filed.kept at' kept last).imp_right ?_
    rintro ⟨d, opens, device⟩
    exact ⟨d, opens, made.old _ _ device nofun nofun⟩
  others place elsewhere content := by
    simp only [Filing.last_error] at elsewhere
    exact (filed.others place elsewhere content).trans (made.same place id content)

theorem Filed.stays {content : List UInt8} (filed : Filed directory format t filings t')
    (opens : t'.Opens directory d) (last : Filing.last now filings = none)
    (there : t.node? (d ++ [encode (format.fileName now)]) = some (.file content)) :
    t'.node? (d ++ [encode (format.fileName now)]) = some (.file content) := by
  refine (filed.others _ (fun later d' taken opens' same => ?_) content).mpr there
  obtain rfl := opens.unique opens'
  have name : encode (format.fileName now) = encode (format.fileName later) := by simpa using same
  rw [← format.fileName_injective name, last] at taken
  cases taken

theorem Filed.taken (opens : t'.Opens directory d)
    (fits : Fits directory (encode (format.fileName now)))
    (alters : AltersOnly (· = d ++ [encode (format.fileName now)]) t t')
    (holds : t'.node? (d ++ [encode (format.fileName now)]) = some (.file (encode report)) ∨
      t.node? (d ++ [encode (format.fileName now)]) = some .sink)
    (later : AltersOnly (fun _ => True) t' t'') (filed : Filed directory format t' filings t'') :
    Filed directory format t
      (⟨now, report, .ok (.written (directory.child (encode (format.fileName now))))⟩ :: filings)
      t'' where
  named f member delivered answered := by
    rcases List.mem_cons.mp member with rfl | member
    · cases answered
      rfl
    · exact filed.named f member delivered answered
  kept at' kept last := by
    rw [Filing.last_ok] at last
    cases again : Filing.last at' filings with
    | some report' =>
      rw [again] at last
      cases last
      refine (filed.kept at' kept again).imp_right ?_
      rintro ⟨d', opens', device⟩
      exact ⟨d', opens', alters.old _ _ device nofun nofun⟩
    | none =>
      -- The first call is the last one of its time, and those behind it leave its file alone.
      rw [again, Option.none_or] at last
      obtain ⟨rfl, rfl⟩ : now = at' ∧ report = kept := by simpa using last
      have opens' := opens.altered later
      exact holds.imp (fun there => opens'.lookUp fits (filed.stays opens' again there))
        fun device => ⟨d, opens', device⟩
  others place elsewhere content := by
    have before : place ≠ d ++ [encode (format.fileName now)] :=
      elsewhere now d (by simp) (opens.altered later)
    refine (filed.others place (fun at' d' taken => elsewhere at' d' ?_) content).trans
      (alters.same place before content)
    simp [taken]

theorem calls_fileReports (directory : Path) (format : Report.Format) (t : FileTree)
    (calls : List (Int × String)) :
    (fileReports directory format t calls).1.map (fun f => (f.now, f.report)) = calls := by
  induction calls generalizing t with
  | nil => rfl
  | cons call calls ih => exact congrArg (call :: ·) (ih _)

theorem fileReports_filed
    (direct : ∀ d, (fileReports directory format t calls).2.Opens directory d → ∀ call ∈ calls,
      ∀ target, t.node? (d ++ [encode (format.fileName call.1)]) ≠ some (.link target)) :
    Filed directory format t (fileReports directory format t calls).1
      (fileReports directory format t calls).2 := by
  induction calls generalizing t with
  | nil => exact .nil directory format t
  | cons call calls ih =>
    obtain ⟨now, report⟩ := call
    have first := altersOnly_fileReport directory format t now report
    have ends : FilingEnds directory format t now report
        (fileReport directory format t now report) := fileReport_ends fun d opens target =>
      direct d (opens.altered (altersOnly_fileReports ..)) (now, report) (.head _) target
    unfold fileReports at direct ⊢
    rcases ran : fileReport directory format t now report with ⟨answer, t₁⟩
    simp only [ran] at first ends direct ⊢
    have later := altersOnly_fileReports directory format t₁ calls
    have filed := ih fun d opens call member target link =>
      direct d opens call (.tail _ member) target (first.old _ _ link nofun nofun)
    cases ends with
    | refused made => exact filed.refused made _
    | taken opens fits alters holds => exact filed.taken opens fits alters holds later

end Filing

/-- Whatever the clock shows, a report that the store of a directory takes is in the file of its
    time until the next one of that time is taken, and nothing else becomes of the files there are.
    A call that is refused leaves all of them as they were, and none is refused where a file can be
    put into the directory under the name of the report. -/
theorem reports_filed (directory : Path) (format : Report.Format) (t : FileTree) :
    (∀ now report, Fits directory (encode (format.fileName now)) →
      t.Ready directory (· = encode (format.fileName now)) →
      (fileReport directory format t now report).1.isOk) ∧
    (∀ now report h t', fileReport directory format t now report = (.error h, t') →
      ∀ place content,
        t'.node? place = some (.file content) ↔ t.node? place = some (.file content)) ∧
    ∀ calls filings t', fileReports directory format t calls = (filings, t') →
      filings.map (fun f => (f.now, f.report)) = calls ∧
      ((∀ d, t'.Opens directory d → ∀ call ∈ calls, ∀ target,
          t.node? (d ++ [encode (format.fileName call.1)]) ≠ some (.link target)) →
        Filed directory format t filings t') := by
  refine ⟨fun now report fits ready => ?_, ?_, ?_⟩
  · rw [fileReport_ready fits ready]
    rfl
  · intro now report h t' ran place content
    have cases := fileReport_cases directory format t now report
    rw [ran] at cases
    rcases cases with ⟨-, made⟩ | ⟨taken, -⟩
    · exact made.same place id content
    · cases taken
  · intro calls filings t' ran
    obtain ⟨rfl, rfl⟩ := Prod.ext_iff.mp ran
    exact ⟨calls_fileReports directory format t calls, fileReports_filed⟩

def Files.FileTree.cluttered : FileTree :=
  ((({} : FileTree).put [encode "kept"] .directory).put
    [encode "kept", encode "jacoco-5.xml"] (.file (encode "<old/>"))).put
    [encode "kept", encode "jacoco-7.xml"] .directory

theorem cluttered_reports_filed :
    let directory := Path.ofString "kept"
    let calls : List (Int × String) := [(5, "<a/>"), (-3, "<b/>"), (7, "<c/>"), (5, "<d/>")]
    (fileReport directory .jacoco .cluttered 5 "<a/>").1.isOk ∧
    (∃ h t', fileReport directory .jacoco .cluttered 7 "<c/>" = (.error h, t') ∧
      ∀ place content, t'.node? place = some (.file content) ↔
        FileTree.cluttered.node? place = some (.file content)) ∧
    ∃ filings t', fileReports directory .jacoco .cluttered calls = (filings, t') ∧
      filings.map (·.answer.isOk) = [true, true, false, true] ∧
      Filing.last 5 filings = some "<d/>" ∧ Filing.last (-3) filings = some "<b/>" ∧
      Filed directory .jacoco .cluttered filings t' := by
  intro directory calls
  have linkless : FileTree.cluttered.Linkless := by decide +kernel
  have refuses : (fileReport directory .jacoco .cluttered 7 "<c/>").1.isOk = false := by
    decide +kernel
  have opens : FileTree.cluttered.Opens directory [encode "kept"] :=
    ⟨walks_of_walk (by decide +kernel), by decide +kernel⟩
  have fits : Fits directory (encode (Report.Format.jacoco.fileName 5)) := by decide +kernel
  have old : FileTree.cluttered.node? [encode "kept", encode (Report.Format.jacoco.fileName 5)] =
      some (.file (encode "<old/>")) := by decide +kernel
  have ready : FileTree.cluttered.Ready directory
      (· = encode (Report.Format.jacoco.fileName 5)) :=
    opens.ready fits fun name same => .inr ⟨_, same ▸ old⟩
  obtain ⟨taken, frame, run⟩ := reports_filed directory .jacoco .cluttered
  refine ⟨taken 5 "<a/>" fits ready, ?_, ?_⟩
  · rcases ran : fileReport directory .jacoco .cluttered 7 "<c/>" with ⟨h | delivered, t'⟩
    · exact ⟨h, t', rfl, frame 7 "<c/>" h t' ran⟩
    · rw [ran] at refuses
      cases refuses
  · exact ⟨_, _, rfl, by decide +kernel, by decide +kernel, by decide +kernel,
      (run calls _ _ rfl).2 fun _ _ _ _ _ => linkless _ _⟩

end TestImpact
