namespace RunMonitor.Metrics

/-! A run of characters that a metric name cannot hold becomes one underscore. -/

def isNameChar (c : Char) : Bool := c.isAlphanum || c == '_'

/-- What is left to copy: nothing special, the underscores that were read last, or a run of
characters to replace. -/
inductive Pending where
  | none
  | underscores (count : Nat)
  | replaced
  | closing

/-- `underscores` counts those read but not yet written; `replacing` says that an underscore has
been written for a run that is still going on, and `closing` that only underscores may continue
it. -/
def sanitizeChars : Pending → List Char → List Char
  | .underscores n, [] => List.replicate n '_'
  | _, [] => []
  | .none, c :: rest =>
      if c = '_' then sanitizeChars (.underscores 1) rest
      else if isNameChar c then c :: sanitizeChars .none rest
      else '_' :: sanitizeChars .replaced rest
  | .underscores n, c :: rest =>
      if c = '_' then sanitizeChars (.underscores (n + 1)) rest
      else if isNameChar c then List.replicate n '_' ++ c :: sanitizeChars .none rest
      else '_' :: sanitizeChars .replaced rest
  | .replaced, c :: rest =>
      if c = '_' then sanitizeChars .closing rest
      else if isNameChar c then c :: sanitizeChars .none rest
      else sanitizeChars .replaced rest
  | .closing, c :: rest =>
      if c = '_' then sanitizeChars .closing rest
      else if isNameChar c then c :: sanitizeChars .none rest
      else '_' :: sanitizeChars .replaced rest

def sanitize (name : String) : String :=
  String.ofList (sanitizeChars .none name.toList)

example : sanitize "-é__b." = "_b_" := by decide
example : sanitize "é_é__..-a99." = "___a99_" := by decide
example : sanitize "__a__" = "__a__" := by decide

end RunMonitor.Metrics
