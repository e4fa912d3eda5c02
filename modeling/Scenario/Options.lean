/-! # Scanning options

Two switches decide how a scenario is scanned. They are also known by name, so that they can be
given as a list of entries; entries of other names are passed over.
-/

namespace Scenario

/-- How a scenario is scanned (`ParseConfig`). -/
structure Options where
  /-- Refuse a tag that is not closed, instead of reading it to the end of the input. -/
  strictTags : Bool := false
  /-- Skip blank characters before each line. -/
  skipBlanks : Bool := false
  deriving DecidableEq

namespace Options

/-- The options after one named entry. Names that are not those of an option change nothing. -/
def set (options : Options) (name : String) (value : Bool) : Options :=
  match name with
  | "strict_inline_tags" => { options with strictTags := value }
  | "skip_leading_whitespace" => { options with skipBlanks := value }
  | _ => options

/-- The options given by a list of named entries, a later entry winning over an earlier one
(`ParseConfig.from_dict`). -/
def ofEntries (entries : List (String × Bool)) : Options :=
  entries.foldl (fun options (name, value) => options.set name value) {}

/-- The options as named entries. -/
def entries (options : Options) : List (String × Bool) :=
  [("strict_inline_tags", options.strictTags), ("skip_leading_whitespace", options.skipBlanks)]

end Options

end Scenario
