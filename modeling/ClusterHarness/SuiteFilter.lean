import ClusterHarness.Text.Blank

/-!
# Selecting test suites by label

A filter is a list of labels between commas.  A bare label asks for suites that carry it, a label
after `!` keeps suites that carry it out, and a filter without bare labels takes every suite that
is not kept out.
-/

namespace ClusterHarness

structure SuiteFilter where
  included : List (List Char)
  excluded : List (List Char)
  deriving DecidableEq, Repr

namespace SuiteFilter

def empty : SuiteFilter := ⟨[], []⟩

def add (filter : SuiteFilter) : List Char → SuiteFilter
  | '!' :: label => { filter with excluded := filter.excluded ++ [Text.trim label] }
  | label => { filter with included := filter.included ++ [label] }

/-- The trimmed pieces between commas that are not empty. -/
def tokens (text : List Char) : List (List Char) :=
  ((Text.split ',' text).map Text.trim).filter (¬·.isEmpty)

def parse (text : List Char) : SuiteFilter := (tokens text).foldl add empty

def enabled (filter : SuiteFilter) (labels : List (List Char)) : Bool :=
  if filter.excluded.any labels.contains then false
  else filter.included.isEmpty || filter.included.any labels.contains

end SuiteFilter

end ClusterHarness
