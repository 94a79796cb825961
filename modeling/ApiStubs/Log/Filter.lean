import ApiStubs.Log.Directive

/-!
# Which records are shown

A `Log.Filter` is a list of directives. Of several directives about a record the most
specific one counts, and of equally specific ones the last; a record that no directive is
about is not shown.
-/

namespace ApiStubs
namespace Log

/-- Which records are shown. -/
structure Filter where
  directives : List Directive
  deriving DecidableEq, Repr

namespace Filter

/-- One threshold for all origins. -/
def only (threshold : Threshold) : Filter := ⟨[⟨none, false, none, threshold⟩]⟩

/-- The pieces of a text between commas. -/
def pieces (text : String) : List (List Char) :=
  (text.toList.splitOn ',').filter (! ·.isEmpty)

/-- Reads directives with commas between them. Without any, errors are shown. -/
def ofString? (text : String) : Option Filter :=
  match (pieces text).mapM Directive.ofChars? with
  | none => none
  | some [] => some (only (some .error))
  | some directives => some ⟨directives⟩

/-- The filter of a run: what the environment asks for, if that can be read, and otherwise
warnings, or all but the finest records of a verbose run. -/
def ofRun (verbose : Bool) (environment : Option String) : Filter :=
  (environment.bind ofString?).getD (only (some (if verbose then .debug else .warn)))

/-- The directive that counts for a record. -/
def directiveFor? (filter : Filter) (r : Record) : Option Directive :=
  (filter.directives.filter (·.concerns r)).foldl
    (fun best d => match best with
      | some (b : Directive) => if b.givesWayTo d then some d else some b
      | none => some d) none

/-- Whether a record is shown. -/
def shows (filter : Filter) (r : Record) : Bool :=
  (filter.directiveFor? r).any (·.threshold.admits r.level)

/-- The lines of the records that are shown. -/
def text (filter : Filter) (records : List Record) : String :=
  String.join ((records.filter filter.shows).map Record.line)

end Filter
end Log
end ApiStubs
