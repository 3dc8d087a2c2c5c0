import GherkinLint.Proofs.Placeholder.Segment
import GherkinLint.Session

namespace GherkinLint.Session

def Step.isScan : Step → Bool
  | .openScan .. => true
  | .next _ => true
  | _ => false

def Step.isNext (id : String) : Step → Bool
  | .next other => other = id
  | _ => false

variable (parse : Parser) (names : Pattern.CharacterNames)

def answer (session : Session) (step : Step) : Except Fault Answer :=
  (session.perform parse names step).map (·.1)

def after (session : Session) (step : Step) : Session :=
  match session.perform parse names step with
  | .ok (_, later) => later
  | .error _ => session

theorem answers_cons (session : Session) (step : Step) (steps : List Step) :
    session.answers parse names (step :: steps) =
      session.answer parse names step ::
        (session.after parse names step).answers parse names steps := by
  rw [answers, answer, after]
  cases session.perform parse names step <;> rfl

theorem answers_append (session : Session) (first second : List Step) :
    session.answers parse names (first ++ second) =
      session.answers parse names first ++
        (first.foldl (after parse names) session).answers parse names second := by
  induction first generalizing session with
  | nil => rfl
  | cons step first ih =>
    rw [List.cons_append, answers_cons, answers_cons, ih, List.foldl_cons, List.cons_append]

theorem length_answers (session : Session) (steps : List Step) :
    (session.answers parse names steps).length = steps.length := by
  induction steps generalizing session with
  | nil => rfl
  | cons step steps ih => rw [answers_cons, List.length_cons, ih, List.length_cons]

def ahead (session : Session) (id : String) : List Placeholder :=
  ((session.scans.lookup id).map (·.remaining)).getD []

theorem lookup_filter_ne {id other : String} (h : other ≠ id)
    (scans : List (String × Placeholder.Cursor)) :
    (scans.filter (·.1 ≠ id)).lookup other = scans.lookup other := by
  induction scans with
  | nil => rfl
  | cons scan scans ih =>
    by_cases hscan : scan.1 = id
    · have hne : (other == scan.1) = false := by simpa [hscan] using h
      rw [List.filter_cons_of_neg (by simpa using hscan), ih, List.lookup_cons, hne]
    · rw [List.filter_cons_of_pos (by simpa using hscan), List.lookup_cons, List.lookup_cons, ih]

theorem ahead_setScan (session : Session) (id other : String) (cursor : Placeholder.Cursor) :
    (session.setScan id cursor).ahead other =
      if other = id then cursor.remaining else session.ahead other := by
  unfold ahead setScan
  dsimp only
  rw [List.lookup_cons]
  by_cases h : other = id
  · simp [h]
  · rw [beq_eq_false_iff_ne.2 h, lookup_filter_ne h, if_neg h]

theorem advance_fst (session : Session) (id : String) :
    (session.advance id).1 = (session.ahead id).head? := by
  unfold advance ahead
  cases session.scans.lookup id with
  | none => rfl
  | some cursor =>
    dsimp only [Option.map_some, Option.getD_some]
    rw [cursor.remaining_eq_next?]
    cases cursor.next? <;> rfl

theorem answer_next (session : Session) (id : String) :
    session.answer parse names (.next id) = .ok (.placeholder (session.ahead id).head?) := by
  rw [← advance_fst]
  rfl

theorem ahead_advance (session : Session) (id other : String) :
    (session.advance id).2.ahead other =
      if other = id then (session.ahead id).tail else session.ahead other := by
  have hahead : session.ahead id = ((session.scans.lookup id).map (·.remaining)).getD [] := rfl
  unfold advance
  cases hlookup : session.scans.lookup id with
  | none =>
    rw [hlookup] at hahead
    by_cases h : other = id <;> simp [h, hahead]
  | some cursor =>
    rw [hlookup, Option.map_some, Option.getD_some, cursor.remaining_eq_next?] at hahead
    dsimp only
    cases hnext : cursor.next? with
    | none =>
      rw [hnext] at hahead
      dsimp only
      rw [ahead_setScan, cursor.remaining_finish, hahead, List.tail_nil]
    | some found =>
      rw [hnext] at hahead
      dsimp only
      rw [ahead_setScan, hahead, List.tail_cons]

def withScans (session : Session) (scans : List (String × Placeholder.Cursor)) : Session :=
  { session with scans }

/-- Steps on the document and on the rule neither look at the scans nor change them. -/
theorem perform_withScans (session : Session) (scans : List (String × Placeholder.Cursor))
    {step : Step} (h : step.isScan = false) :
    (session.withScans scans).perform parse names step =
      (session.perform parse names step).map
        fun (answer, later) ↦ (answer, later.withScans scans) := by
  cases step with
  | openScan | next => cases h
  | load source =>
    rw [perform, perform]
    cases source.document parse <;> rfl
  | update severity =>
    simp only [perform, withScans]
    cases session.rule.update severity <;> rfl
  | configure settings =>
    rw [perform, perform]
    cases Configuration.ofSettings names .standard "" settings <;> rfl
  | setRule | showRule | run | check => rfl

theorem after_withScans (session : Session) (scans : List (String × Placeholder.Cursor))
    {step : Step} (h : step.isScan = false) :
    (session.withScans scans).after parse names step =
      (session.after parse names step).withScans scans := by
  rw [after, after, perform_withScans parse names session scans h]
  cases session.perform parse names step <;> rfl

theorem answer_withScans (session : Session) (scans : List (String × Placeholder.Cursor))
    {step : Step} (h : step.isScan = false) :
    (session.withScans scans).answer parse names step =
      session.answer parse names step := by
  rw [answer, answer, perform_withScans parse names session scans h]
  cases session.perform parse names step <;> rfl

theorem Step.isNext_of_isScan_eq_false {step : Step} (h : step.isScan = false) (id : String) :
    step.isNext id = false := by
  cases step with
  | openScan | next => cases h
  | _ => rfl

/-- A step that does not begin a scan anew leaves it as it is, or takes its first placeholder. -/
theorem ahead_after (session : Session) {id : String} {step : Step}
    (h : ∀ text, step ≠ .openScan id text) :
    (session.after parse names step).ahead id =
      if step.isNext id then (session.ahead id).tail else session.ahead id := by
  cases hscan : step.isScan with
  | false =>
    -- The step does the same beside the scans that are there already, so these are still there.
    have hsame : session.after parse names step =
        (session.after parse names step).withScans session.scans :=
      after_withScans parse names session session.scans hscan
    rw [Step.isNext_of_isScan_eq_false hscan, if_neg Bool.false_ne_true]
    have hahead := congrArg (ahead · id) hsame
    exact hahead
  | true =>
    cases step with
    | openScan other text =>
      have hne : id ≠ other := fun hid ↦ h text (hid ▸ rfl)
      change (session.setScan other _).ahead id = session.ahead id
      rw [ahead_setScan, if_neg hne]
    | next other =>
      change (session.advance other).2.ahead id = _
      rw [ahead_advance]
      by_cases hid : id = other
      · simp [Step.isNext, hid]
      · simp [Step.isNext, hid, Ne.symm hid]
    | _ => cases hscan

theorem ahead_foldl (session : Session) {id : String} {steps : List Step}
    (h : ∀ text, .openScan id text ∉ steps) :
    (steps.foldl (after parse names) session).ahead id =
      (session.ahead id).drop (steps.countP (·.isNext id)) := by
  induction steps generalizing session with
  | nil => rfl
  | cons step steps ih =>
    have hstep : ∀ text, step ≠ .openScan id text := by
      intro text hopen
      exact h text (hopen ▸ List.mem_cons_self)
    rw [List.foldl_cons, ih _ fun text hmem ↦ h text (List.mem_cons_of_mem step hmem),
      ahead_after parse names session hstep, List.countP_cons]
    split
    · rw [List.drop_tail, Nat.add_comm]
    · rfl

/-- The steps on the document and on the rule that do not fail, each with its answer. -/
def kept (session : Session) (steps : List Step) : List (Step × Except Fault Answer) :=
  (steps.zip (session.answers parse names steps)).filter
    fun (step, answer) ↦ !step.isScan && answer.isOk

theorem kept_cons (session : Session) (step : Step) (steps : List Step) :
    session.kept parse names (step :: steps) =
      if !step.isScan && (session.answer parse names step).isOk then
        (step, session.answer parse names step) ::
          (session.after parse names step).kept parse names steps
      else (session.after parse names step).kept parse names steps := by
  rw [kept, answers_cons, List.zip_cons_cons, List.filter_cons]
  rfl

theorem withScans_advance (session : Session) (id : String)
    (scans : List (String × Placeholder.Cursor)) :
    (session.advance id).2.withScans scans = session.withScans scans := by
  unfold advance
  cases session.scans.lookup id with
  | none => rfl
  | some cursor =>
    dsimp only
    cases cursor.next? <;> rfl

/-- A step that is not kept changes scans only. -/
theorem withScans_after (session : Session) (scans : List (String × Placeholder.Cursor))
    {step : Step} (h : (!step.isScan && (session.answer parse names step).isOk) = false) :
    (session.after parse names step).withScans scans = session.withScans scans := by
  cases hscan : step.isScan with
  | true =>
    cases step with
    | openScan id text => rfl
    | next id => exact withScans_advance session id scans
    | _ => cases hscan
  | false =>
    rw [hscan, Bool.not_false, Bool.true_and, answer] at h
    rw [after]
    cases hperform : session.perform parse names step with
    | ok result =>
      rw [hperform] at h
      cases h
    | error fault => rfl

theorem answers_kept (session : Session) (scans : List (String × Placeholder.Cursor))
    (steps : List Step) :
    (session.withScans scans).answers parse names ((session.kept parse names steps).map (·.1)) =
      (session.kept parse names steps).map (·.2) := by
  induction steps generalizing session with
  | nil => rfl
  | cons step steps ih =>
    rw [kept_cons]
    split
    next hkept =>
      have hscan : step.isScan = false := by
        rw [Bool.and_eq_true, Bool.not_eq_true'] at hkept
        exact hkept.1
      rw [List.map_cons, List.map_cons, answers_cons,
        answer_withScans parse names session scans hscan,
        after_withScans parse names session scans hscan, ih]
    next hkept =>
      rw [← withScans_after parse names session scans (Bool.eq_false_iff.2 hkept), ih]

/-- Each step of a session is answered. Since a scan was last begun, its steps are answered by the
placeholders of its text in order, and then by none, whatever is done in between. Steps on the
document and on the rule that do not fail are answered as in the session of these steps alone. -/
theorem answers_independent (session : Session) :
    (∀ steps, (session.answers parse names steps).length = steps.length) ∧
    (∀ before id text between rest, (∀ other, .openScan id other ∉ between) →
      (session.answers parse names (before ++ .openScan id text :: between ++ .next id :: rest))[
          before.length + 1 + between.length]? =
        some (.ok (.placeholder (placeholders text)[between.countP (·.isNext id)]?))) ∧
    ∀ steps, session.answers parse names ((session.kept parse names steps).map (·.1)) =
      (session.kept parse names steps).map (·.2) := by
  refine ⟨length_answers parse names session, fun before id text between rest hbetween ↦ ?_,
    fun steps ↦ ?_⟩
  · have hlength : (before ++ .openScan id text :: between).length =
        before.length + 1 + between.length := by
      rw [List.length_append, List.length_cons]
      omega
    have hahead :
        ((before ++ .openScan id text :: between).foldl (after parse names) session).ahead id =
          (placeholders text).drop (between.countP (·.isNext id)) := by
      rw [List.foldl_append, List.foldl_cons, ahead_foldl parse names _ hbetween]
      change ((Session.setScan _ id (.start text)).ahead id).drop _ = _
      rw [ahead_setScan, if_pos rfl, Placeholder.Cursor.remaining_start]
    rw [answers_append, answers_cons, ← hlength, ← length_answers parse names session,
      List.getElem?_append_right (Nat.le_refl _), Nat.sub_self, List.getElem?_cons_zero,
      answer_next, hahead, List.head?_drop]
  · exact answers_kept parse names session session.scans steps

/-- Reads a text without content. Any other text has a letter where a feature begins. -/
def blankParser : Parser := fun text ↦
  if text = "" then .ok (.object [("comments", .list [])])
  else .error (.parserError ("Parser errors:\n(1:1): expected: #EOF, #Language, #TagLine, " ++
    "#FeatureLine, #Comment, #Empty, got '" ++ text ++ "'"))

def stepsBetween : List Step :=
  [.next "a", .openScan "b" "<x>", .load (.text "" "x"), .update (.text "fatal"),
    .load (.text "" ""), .next "b"]

/-- A scan that goes on beside another one, past a text that is loaded, one that is not, and a
severity that is none. -/
theorem answers_independent_interleaved :
    (∀ other, Step.openScan "a" other ∉ stepsBetween) ∧
    (start.answers blankParser Pattern.noNames ([.update (.text "error")] ++
        .openScan "a" "<n> of <m>" :: stepsBetween ++
        .next "a" :: [.showRule, .next "a"]))[8]? =
      some (.ok (.placeholder (some ⟨"m", 7⟩))) := by
  have hfresh : ∀ other, Step.openScan "a" other ∉ stepsBetween := by
    simp [stepsBetween]
  have hcount : stepsBetween.countP (·.isNext "a") = 1 := by
    decide
  have hsecond : (placeholders "<n> of <m>")[1]? = some ⟨"m", 7⟩ := by decide +kernel
  refine ⟨hfresh, ?_⟩
  have hanswer := (answers_independent blankParser Pattern.noNames start).2.1
    [.update (.text "error")] "a" "<n> of <m>" stepsBetween [.showRule, .next "a"] hfresh
  rw [hcount, hsecond] at hanswer
  exact hanswer

end GherkinLint.Session
