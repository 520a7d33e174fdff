import LendingRules.Proofs.Requests.Uuids
import LendingRules.Request.Form

namespace LendingRules

/-!
# What becomes of a request form

Of the parameters that are filled in, the last value for each known name counts. If the
four required ids are there and every id is acceptable, validation gives the request
with just these ids. Otherwise it reports every problem once, in checking order.
-/

namespace Facet

/-- A name is read as a facet exactly when it is the parameter of that facet. -/
theorem ofParameter?_eq_some_iff {name : String} {facet : Facet} :
    ofParameter? name = some facet ↔ facet.parameter = name := by
  constructor
  · intro found
    simpa using List.find?_some found
  · rintro rfl
    exact ofParameter?_parameter facet

/-- Every parameter is checked. -/
theorem mem_checkingOrder (facet : Facet) : facet ∈ checkingOrder := by
  cases facet <;> decide

end Facet

/-- The last value that pairs of name and value give for the parameter of a facet. -/
def lastGiven? (pairs : List (String × String)) (facet : Facet) : Option String :=
  pairs.reverse.lookup facet.parameter

/-- Whether a problem is one of the given ids: a required id is absent, or an id does not match. -/
def FormProblem.Concerns (given? : Facet → Option String) : FormProblem → Prop
  | missing facet => facet.isRequired = true ∧ given? facet = none
  | malformed facet id =>
      given? facet = some id ∧ id.toList ∉ Uuid.acceptedPattern.language

namespace RequestForm

/-- The required ids are given, and all ids that are given match the quoted expression. -/
structure Acceptable (given? : Facet → Option String) : Prop where
  required : ∀ facet : Facet, facet.isRequired = true → (given? facet).isSome = true
  matching : ∀ facet id, given? facet = some id → id.toList ∈ Uuid.acceptedPattern.language

/-- The problems are those of the given ids, each of them once, in checking order. -/
structure Reports (given? : Facet → Option String) (problems : List FormProblem) : Prop where
  inOrder : (problems.map FormProblem.facet).Sublist Facet.checkingOrder
  nodup : problems.Nodup
  mem_iff : ∀ problem, problem ∈ problems ↔ problem.Concerns given?

/-- What validation has to answer: the request with the given ids, or what is wrong with them. -/
def Settles (given? : Facet → Option String) : Except (List FormProblem) Request → Prop
  | .ok request => Acceptable given? ∧ ∀ facet, request.get? facet = given? facet
  | .error problems => ¬ Acceptable given? ∧ Reports given? problems

variable {form : RequestForm} {facet : Facet} {problem : FormProblem}

/-- Filling in a parameter changes the facet of that name, and none if there is no such facet. -/
theorem get?_fill (form : RequestForm) (name value : String) (facet : Facet) :
    (form.fill name value).get? facet =
      if facet.parameter = name then some value else form.get? facet := by
  unfold fill
  split
  · rename_i other found
    cases Facet.ofParameter?_eq_some_iff.mp found
    have named : facet.parameter = other.parameter ↔ facet = other := by
      rw [← Facet.ofParameter?_eq_some_iff, Facet.ofParameter?_parameter, Option.some.injEq,
        eq_comm]
    simp [get?, FacetTable.get_set, named]
  · rename_i unknown
    have unnamed : facet.parameter ≠ name := by
      intro named
      rw [Facet.ofParameter?_eq_some_iff.mpr named] at unknown
      cases unknown
    rw [if_neg unnamed]

/-- After filling in pairs the last value given for a parameter counts, or else the old one. -/
theorem get?_fillAll (form : RequestForm) (pairs : List (String × String)) (facet : Facet) :
    (form.fillAll pairs).get? facet = (lastGiven? pairs facet).or (form.get? facet) := by
  induction pairs generalizing form with
  | nil => rfl
  | cons pair rest inductionHypothesis =>
      obtain ⟨name, value⟩ := pair
      have later := inductionHypothesis (form.fill name value)
      rw [get?_fill] at later
      rw [lastGiven?, List.reverse_cons, List.lookup_append, Option.or_assoc]
      refine later.trans (congrArg _ ?_)
      by_cases named : facet.parameter = name
      · simp [named]
      · have differs : (facet.parameter == name) = false := beq_eq_false_iff_ne.mpr named
        simp [List.lookup_cons, named, differs]

/-- The problem of a facet is the one of what is filled in for it. -/
theorem problem?_eq_some_iff :
    form.problem? facet = some problem ↔
      problem.facet = facet ∧ problem.Concerns form.get? := by
  cases given : form.get? facet with
  | none =>
      simp only [problem?, given, Option.ite_none_right_eq_some, Option.some.injEq]
      constructor
      · rintro ⟨required, rfl⟩
        exact ⟨rfl, required, given⟩
      · rintro ⟨rfl, concerns⟩
        cases problem with
        | missing other => exact ⟨concerns.1, rfl⟩
        | malformed other id => cases given.symm.trans concerns.1
  | some value =>
      simp only [problem?, given, Option.ite_none_left_eq_some, Option.some.injEq,
        Uuid.isAccepted_iff]
      constructor
      · rintro ⟨rejected, rfl⟩
        exact ⟨rfl, given, rejected⟩
      · rintro ⟨rfl, concerns⟩
        cases problem with
        | missing other => cases given.symm.trans concerns.2
        | malformed other id =>
            obtain ⟨present, rejected⟩ := concerns
            cases given.symm.trans present
            exact ⟨rejected, rfl⟩

/-- What is wrong with a form are the problems of what is filled in. -/
theorem reports_problems (form : RequestForm) : Reports form.get? form.problems := by
  have facets :
      form.problems.map FormProblem.facet =
        Facet.checkingOrder.filter fun facet => (form.problem? facet).isSome := by
    rw [problems, List.map_filterMap, ← List.filterMap_eq_filter]
    apply List.filterMap_congr
    intro facet _
    cases found : form.problem? facet with
    | none => simp [Option.guard, found]
    | some problem => simp [Option.guard, found, (problem?_eq_some_iff.mp found).1]
  have inOrder : (form.problems.map FormProblem.facet).Sublist Facet.checkingOrder :=
    facets ▸ List.filter_sublist
  refine ⟨inOrder, (inOrder.nodup (by decide)).of_map _, fun problem => ?_⟩
  simp only [problems, List.mem_filterMap, problem?_eq_some_iff]
  constructor
  · rintro ⟨facet, -, -, concerns⟩
    exact concerns
  · intro concerns
    exact ⟨problem.facet, problem.facet.mem_checkingOrder, rfl, concerns⟩

/-- What is filled in is acceptable exactly when nothing is wrong with the form. -/
theorem acceptable_iff : Acceptable form.get? ↔ form.problems = [] := by
  have reported := form.reports_problems.mem_iff
  rw [List.eq_nil_iff_forall_not_mem]
  constructor
  · intro acceptable problem listed
    cases problem with
    | missing facet =>
        obtain ⟨required, absent⟩ := (reported _).mp listed
        simpa [absent] using acceptable.required facet required
    | malformed facet id =>
        obtain ⟨present, rejected⟩ := (reported _).mp listed
        exact rejected (acceptable.matching facet id present)
  · intro fine
    constructor
    · intro facet required
      rw [← Option.ne_none_iff_isSome]
      intro absent
      exact fine (.missing facet) ((reported _).mpr ⟨required, absent⟩)
    · intro facet id present
      by_contra rejected
      exact fine (.malformed facet id) ((reported _).mpr ⟨present, rejected⟩)

/-- Validation settles every form. -/
theorem settles_validate (form : RequestForm) : Settles form.get? form.validate := by
  by_cases fine : form.problems = []
  · have acceptable := acceptable_iff.mpr fine
    have filledIn (facet : Facet) (required : facet.isRequired = true) :
        ∃ id, form.get? facet = some id :=
      Option.isSome_iff_exists.mp (acceptable.required facet required)
    obtain ⟨materialType, material⟩ := filledIn .materialType rfl
    obtain ⟨loanType, loan⟩ := filledIn .loanType rfl
    obtain ⟨patronGroup, patron⟩ := filledIn .patronGroup rfl
    obtain ⟨shelvingLocation, location⟩ := filledIn .shelvingLocation rfl
    simp only [validate, material, loan, patron, location, fine]
    refine ⟨acceptable, fun facet => ?_⟩
    cases facet <;> simp [Request.get?, material, loan, patron, location]
  · have refused : form.validate = .error form.problems := by
      unfold validate
      split
      · rename_i none
        exact absurd none fine
      · rfl
    rw [refused]
    exact ⟨mt acceptable_iff.mp fine, form.reports_problems⟩

/--
Whatever parameters are filled in, and whichever reader of UUIDs is used, validation
settles the ids that were given last: it gives the request with exactly these ids if the
required ones are there and all of them match the quoted expression, and otherwise
reports every id that is missing or does not match.
-/
theorem validate_settles_last_given
    {reader : UuidReader}
    (documented : reader.Documented)
    (pairs later : List (String × String)) :
    Uuid.acceptedPattern.text = Uuid.pattern ∧
      (∀ text, reader.accepts text = Uuid.isAccepted text) ∧
        Settles (lastGiven? (pairs ++ later)) ((ofPairs pairs).fillAll later).validate := by
  have given : ((ofPairs pairs).fillAll later).get? = lastGiven? (pairs ++ later) := by
    funext facet
    rw [ofPairs, get?_fillAll, get?_fillAll, get?_empty, Option.or_none, lastGiven?, lastGiven?,
      lastGiven?, List.reverse_append, List.lookup_append]
  refine ⟨Uuid.text_acceptedPattern, documented.accepts_eq_isAccepted, ?_⟩
  rw [← given]
  exact settles_validate _

/-- Pairs that correct one id, name a parameter that there is not, and leave one out. -/
def carelessPairs : List (String × String) :=
  [("item_type_id", "book"), ("limit", "10"),
    ("item_type_id", "96d4bdf1-5fc2-40ef-9ace-6d7e3e48ec4d"),
    ("loan_type_id", "2E6F51B9-D00A-4F1D-9960-49B1977ACFCA")]

/-- Parameters that are filled in afterwards, the last of them with no UUID. -/
def additionalPairs : List (String × String) :=
  [("location_id", "b6375fcb-caaf-4b94-944d-b1a6bb589425"), ("campus_id", "main campus")]

/-- The absent patron group and the malformed campus are reported, and nothing else. -/
theorem careless_form_settled :
    Uuid.reader.Documented ∧
      ((ofPairs carelessPairs).fillAll additionalPairs).validate =
          .error [.missing .patronGroup, .malformed .campus "main campus"] ∧
        Uuid.acceptedPattern.text = Uuid.pattern ∧
          (∀ text, Uuid.reader.accepts text = Uuid.isAccepted text) ∧
            Settles (lastGiven? (carelessPairs ++ additionalPairs))
              ((ofPairs carelessPairs).fillAll additionalPairs).validate :=
  ⟨Uuid.documented_reader, by decide +kernel,
    validate_settles_last_given Uuid.documented_reader carelessPairs additionalPairs⟩

end RequestForm

end LendingRules
