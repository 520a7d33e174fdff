namespace LendingRules

/-!
# Facets of a loan

A loan is described by seven facets: what is lent, under which loan type, to
whom, and where it is shelved. Rules constrain facets, requests supply an id
for them, and a ranking may put them in an order of its own. Each facet has a
letter for rule text, a display name, and a hyphenated name for records.
-/

/-- One facet of a loan that a rule may constrain. -/
inductive Facet where
  | loanType
  | shelvingLocation
  | library
  | campus
  | institution
  | materialType
  | patronGroup
  deriving Repr, DecidableEq

namespace Facet

/-- The seven facets in their customary order. -/
def all : List Facet :=
  [loanType, shelvingLocation, library, campus, institution, materialType,
    patronGroup]

/-- The letter that stands for a facet in rule text. -/
def letter : Facet → Char
  | loanType => 't'
  | shelvingLocation => 's'
  | library => 'c'
  | campus => 'b'
  | institution => 'a'
  | materialType => 'm'
  | patronGroup => 'g'

/-- The facet that a letter stands for. -/
def ofLetter? (letter : Char) : Option Facet :=
  all.find? fun facet => facet.letter = letter

/-- The name of a facet as shown to people. -/
def name : Facet → String
  | loanType => "loan type"
  | shelvingLocation => "shelving location"
  | library => "library"
  | campus => "campus"
  | institution => "institution"
  | materialType => "material type"
  | patronGroup => "patron group"

/-- The name of a facet in records, with hyphens between its words. -/
def recordName : Facet → String
  | loanType => "loan-type"
  | shelvingLocation => "shelving-location"
  | library => "library"
  | campus => "campus"
  | institution => "institution"
  | materialType => "material-type"
  | patronGroup => "patron-group"

/-- The facet with a given record name. -/
def ofRecordName? (name : String) : Option Facet :=
  all.find? fun facet => facet.recordName = name

/-- Every facet is listed. -/
theorem mem_all (facet : Facet) : facet ∈ all := by
  cases facet <;> decide

/-- No facet is listed twice. -/
theorem nodup_all : all.Nodup := by
  decide

/-- Different facets have different letters. -/
theorem letter_injective
    {first second : Facet}
    (same : first.letter = second.letter) :
    first = second := by
  cases first <;> cases second <;> first | rfl | exact absurd same (by decide)

/-- A letter stands for a facet exactly when it is that facet's letter. -/
theorem ofLetter?_eq_some_iff {letter : Char} {facet : Facet} :
    ofLetter? letter = some facet ↔ facet.letter = letter := by
  constructor
  · intro found
    simpa using List.find?_some found
  · rintro rfl
    cases facet <;> decide

@[simp] theorem ofLetter?_letter (facet : Facet) :
    ofLetter? facet.letter = some facet :=
  ofLetter?_eq_some_iff.mpr rfl

/-- A record name is read back as the facet that bears it. -/
@[simp] theorem ofRecordName?_recordName (facet : Facet) :
    ofRecordName? facet.recordName = some facet := by
  cases facet <;> decide

end Facet

end LendingRules
