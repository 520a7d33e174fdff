import LendingRules.Document.Ranking

namespace LendingRules

/-!
# Resolving indentation

A line of criteria encloses the lines indented below it: their rules take over
its criteria. Walking down the entries, the open frames are the lines that still
enclose what comes next, innermost first. A line without policies is a header;
it closes in error when nothing was nested in it. The fallback stands outside
all nesting and encloses nothing.
-/

namespace CriterionToken

/-- The criterion that a token on a line stands for. -/
def criterion (token : CriterionToken) (line : Nat) : Except RuleError Criterion :=
  match token.names with
  | [⟨"all", false, _⟩] => .ok ⟨token.facet, .anyId⟩
  | names =>
      let negated := names.head?.any NameToken.negated
      let ids := names.map NameToken.name
      match names.find? fun name => name.negated != negated with
      | some odd => .error ⟨line, odd.column, .mixedNegation⟩
      | none => .ok ⟨token.facet, if negated then .noneOf ids else .oneOf ids⟩

/-- Add the criteria of a line to inherited ones; no facet may occur twice. -/
def extend
    (line : Nat)
    (inherited : List Criterion) :
    List CriterionToken → Except RuleError (List Criterion)
  | [] => .ok inherited
  | token :: rest =>
      if inherited.any (·.facet = token.facet) then
        .error ⟨line, token.column, .repeatedFacet token.facet⟩
      else do
        let criterion ← token.criterion line
        extend line (inherited ++ [criterion]) rest

end CriterionToken

namespace PolicyList

/-- The policies of a list on a line: at least one, and one of each type. -/
def policies (list : PolicyList) (line : Nat) : Except RuleError Policies :=
  if list.tokens.isEmpty then
    .error ⟨line, list.colon, .policyMissingAfterColon⟩
  else
    match firstRepeat? PolicyToken.type list.tokens with
    | some token => .error ⟨line, token.column, .repeatedPolicy token.type⟩
    | none => .ok (.ofPairs (list.tokens.map fun token => (token.type, token.id)))

end PolicyList

/-- A line that encloses the lines indented below it. -/
structure Frame where
  line : Nat
  indent : Nat
  criteria : List Criterion
  isHeader : Bool
  hasNested : Bool
  deriving Repr, DecidableEq

namespace Frame

/-- Leave a frame; a header must have had something nested in it. -/
def close (frame : Frame) : Except RuleError Unit :=
  if frame.isHeader && !frame.hasNested then
    .error ⟨frame.line, frame.indent + 1, .policyMissing⟩
  else
    .ok ()

/-- Leave every frame that does not enclose a line of the given indentation. -/
def closeFrom (indent : Nat) : List Frame → Except RuleError (List Frame)
  | [] => .ok []
  | frame :: outer =>
      if indent ≤ frame.indent then do
        frame.close
        closeFrom indent outer
      else
        .ok (frame :: outer)

/-- The criteria that a line inside the frames inherits. -/
def inherited (frames : List Frame) : List Criterion :=
  frames.head?.elim [] Frame.criteria

/-- Note that the innermost frame has something nested in it. -/
def markNested : List Frame → List Frame
  | [] => []
  | frame :: outer => { frame with hasNested := true } :: outer

end Frame

/-- The open frames, and whether the fallback has been given. -/
structure Nesting where
  frames : List Frame
  hasFallback : Bool
  deriving Repr, DecidableEq

namespace Nesting

/-- Nothing is open and there is no fallback yet. -/
def start : Nesting :=
  ⟨[], false⟩

/-- Take in the fallback. -/
def addFallback
    (nesting : Nesting)
    (entry : Entry)
    (list : PolicyList) :
    Except RuleError (Option Rule × Nesting) :=
  if 0 < entry.indent then
    .error ⟨entry.line, entry.indent + 1, .indentedFallback⟩
  else if nesting.hasFallback then
    .error ⟨entry.line, 1, .repeatedFallback⟩
  else do
    let policies ← list.policies entry.line
    return (some ⟨.fallback, policies, entry.line⟩, { nesting with hasFallback := true })

/-- Take in a line of criteria, which opens a frame of its own. -/
def addCriteria
    (nesting : Nesting)
    (entry : Entry)
    (tokens : List CriterionToken)
    (list? : Option PolicyList) :
    Except RuleError (Option Rule × Nesting) := do
  let criteria ←
    CriterionToken.extend entry.line (Frame.inherited nesting.frames) tokens
  let rule? ←
    match list? with
    | none => pure none
    | some list => do
        let policies ← list.policies entry.line
        pure (some ⟨.allOf criteria, policies, entry.line⟩)
  let frame : Frame :=
    { line := entry.line
      indent := entry.indent
      criteria
      isHeader := list?.isNone
      hasNested := false }
  return (rule?, { nesting with frames := frame :: Frame.markNested nesting.frames })

/-- Take in one entry; it gives a rule when it assigns policies. -/
def add (nesting : Nesting) (entry : Entry) : Except RuleError (Option Rule × Nesting) := do
  let frames ← Frame.closeFrom entry.indent nesting.frames
  let nesting := { nesting with frames }
  match entry.clause with
  | .fallback list => nesting.addFallback entry list
  | .criteria tokens list? => nesting.addCriteria entry tokens list?

/-- Take in entries one after the other and collect their rules. -/
def addAll (nesting : Nesting) : List Entry → Except RuleError (List Rule × Nesting)
  | [] => .ok ([], nesting)
  | entry :: rest => do
      let (rule?, next) ← nesting.add entry
      let (rules, last) ← next.addAll rest
      return (rule?.toList ++ rules, last)

end Nesting

namespace Document

/-- The self-contained rules of a document in the order of their lines. -/
def rules (document : Document) : Except RuleError (List Rule) := do
  let (rules, last) ← Nesting.start.addAll document.entries
  let _ ← Frame.closeFrom 0 last.frames
  if last.hasFallback then
    return rules
  else
    .error ⟨document.lastLine + 1, 1, .fallbackMissing⟩

end Document

end LendingRules
