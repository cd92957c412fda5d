import TruthTables.Proofs.CommandLine.Accounting

/-!
# The log of a run

The log tells that the text has been read, then line by line what is done for each, and at last
that all lines have been worked out.  What is done for a line is told on its way to a table; and if
it does not get there, one more record names the line by its number, and its error in full.

What the records say is written out here, word for word.

## Main definitions

* `LineError.words e` — how the log names the error `e`.
* `logOf n line` — what a line with the number `n` adds to the log.
* `wholeLog file source` — the whole log of a run.

## Main results

* `LineError.inspect_eq_words` — an error in full is these words.
* `filterMap_log?_events` — **the log of a run is the whole log.**
-/

namespace TruthTables

/-! ### Errors -/

/-- How the log writes a place in a line. -/
def placeWords (offset : Nat) : Text :=
  "SourceLocation \x7b offset: ".toList ++ Text.ofNat offset ++ " \x7d".toList

/-- How the log writes a place in a line, if there is one. -/
def placeWords? : Option Nat → Text
  | none => "None".toList
  | some offset => "Some(".toList ++ placeWords offset ++ ")".toList

/-- How the log writes a token. -/
def Token.words : Token → Text
  | ⟨.atom c, n⟩ =>
    "Variable(".toList ++ Text.quotedChar c ++ ", ".toList ++ placeWords n ++ ")".toList
  | ⟨.neg, n⟩ => "Not(".toList ++ placeWords n ++ ")".toList
  | ⟨.op .and, n⟩ => "And(".toList ++ placeWords n ++ ")".toList
  | ⟨.op .or, n⟩ => "Or(".toList ++ placeWords n ++ ")".toList
  | ⟨.op .implies, n⟩ => "Implies(".toList ++ placeWords n ++ ")".toList

/-- How the log names an error, with all that there is to it. -/
def LineError.words : LineError → Text
  | lexical ⟨c, n⟩ => "InvalidCharacter \x7b ch: ".toList ++ Text.quotedChar c ++
      ", location: ".toList ++ placeWords n ++ " \x7d".toList
  | limit (.tooManyVariables count max) => "TooManyVariables \x7b count: ".toList ++
      Text.ofNat count ++ ", max: ".toList ++ Text.ofNat max ++ " \x7d".toList
  | limit (.tooManyOperators count max) => "TooManyOperators \x7b count: ".toList ++
      Text.ofNat count ++ ", max: ".toList ++ Text.ofNat max ++ " \x7d".toList
  | grammar (.variableExpected offset) => "ExpectedVariable \x7b location: ".toList ++
      placeWords? offset ++ " \x7d".toList
  | grammar (.unexpected t n) => "UnexpectedToken \x7b token: ".toList ++ t.words ++
      ", location: ".toList ++ placeWords n ++ " \x7d".toList
  | unbound ⟨c⟩ => "UnboundVariable \x7b name: ".toList ++ Text.quotedChar c ++ " \x7d".toList

theorem inspectLocation_eq_words (n : Nat) : inspectLocation n = placeWords n :=
  Text.fields_one rfl (Text.ofNat n)

theorem inspectLocation?_eq_words (offset : Option Nat) :
    inspectLocation? offset = placeWords? offset := by
  cases offset with
  | none => rfl
  | some n =>
    rw [inspectLocation?, inspectLocation_eq_words]
    exact Text.application_one rfl (placeWords n)

theorem Token.inspect_eq_words (t : Token) : t.inspect = t.words := by
  obtain ⟨s, n⟩ := t
  cases s with
  | atom c =>
    rw [inspect, inspectLocation_eq_words]
    exact Text.application_two rfl (Text.quotedChar c) (placeWords n)
  | neg =>
    rw [inspect, inspectLocation_eq_words]
    exact Text.application_one rfl (placeWords n)
  | op p =>
    cases p <;> rw [inspect, inspectLocation_eq_words] <;>
      exact Text.application_one rfl (placeWords n)

/-- **An error in full is these words.** -/
theorem LineError.inspect_eq_words (e : LineError) : e.inspect = e.words := by
  cases e with
  | lexical e =>
    rw [inspect, inspectLocation_eq_words]
    exact Text.fields_two rfl rfl (Text.quotedChar e.char) (placeWords e.offset)
  | limit e =>
    cases e with
    | tooManyVariables count max =>
      exact Text.fields_two rfl rfl (Text.ofNat count) (Text.ofNat max)
    | tooManyOperators count max =>
      exact Text.fields_two rfl rfl (Text.ofNat count) (Text.ofNat max)
  | grammar e =>
    cases e with
    | variableExpected offset =>
      rw [inspect, inspectLocation?_eq_words]
      exact Text.fields_one rfl (placeWords? offset)
    | unexpected t n =>
      rw [inspect, inspectLocation_eq_words, t.inspect_eq_words]
      exact Text.fields_two rfl rfl t.words (placeWords n)
  | unbound e => exact Text.fields_one rfl (Text.quotedChar e.name)

/-! ### Lines -/

/-- What a line adds to the log: the records of its way to a table, and if it does not get
there a record that names its number and its error. -/
def logOf (number : Nat) (line : Text) : List Record :=
  (build line).log ++
    match buildTable line with
    | .ok _ => []
    | .error e => [⟨.debug,
        "line ".toList ++ Text.ofNat number ++ " rejected: ".toList ++ e.words⟩]

theorem log?_events_ofLine (s : Style) (l : NumberedLine) :
    ((Entry.ofLine l).events s).filterMap Event.log? = logOf l.number l.content := by
  have hresult : (Entry.ofLine l).result = buildTable l.content := rfl
  rw [Entry.filterMap_log?_events, hresult, logOf]
  simp only [rejectedRecord, LineError.inspect_eq_words]
  rfl

/-! ### Runs -/

/-- The whole log of a run: that the text has been read, what its lines add one after the
other, and how many of them there are, with a table and without. -/
def wholeLog (file source : Text) : List Record :=
  ⟨.info, "Loaded ".toList ++ Text.ofNat source.byteCount ++ " bytes from ".toList ++
      Text.quotedName file⟩ ::
    (source.nonblank.flatMap (fun x => logOf x.2 x.1) ++
      [⟨.info, "Processed ".toList ++ Text.ofNat source.nonblank.length ++
        " expressions: ".toList ++
        Text.ofNat (source.nonblank.countP fun x => (buildTable x.1).isOk) ++
        " tables, ".toList ++
        Text.ofNat (source.nonblank.countP fun x => !(buildTable x.1).isOk) ++
        " errors".toList⟩])

/-- The summary of a run counts the lines with a table and those without. -/
theorem ofEntries_worksheet_eq_countP (source : Text) :
    Summary.ofEntries (worksheet source) =
      { lines := source.nonblank.length
        tables := source.nonblank.countP fun x => (buildTable x.1).isOk
        failures := source.nonblank.countP fun x => !(buildTable x.1).isOk } := by
  have htables : ∀ line s, (outputOf s line).isSome = (buildTable line).isOk := by
    intro line s
    rw [outputOf]
    cases buildTable line <;> rfl
  have hfailures : ∀ line s, (reportOf s line).isSome = !(buildTable line).isOk := by
    intro line s
    rw [reportOf]
    cases buildTable line <;> rfl
  rw [ofEntries_worksheet ⟨false, false⟩, List.length_filterMap_eq_countP,
    List.length_filterMap_eq_countP]
  simp only [htables, hfailures]

/-- **The log of a run is the whole log.** -/
theorem filterMap_log?_events (s : Style) (file source : Text) :
    (events s file source).filterMap Event.log? = wholeLog file source := by
  have hend : ∀ r, [Event.flush, .log r].filterMap Event.log? = [r] := fun _ => rfl
  rw [filterMap_events, hend, ofEntries_worksheet_eq_countP]
  simp only [log?_events_ofLine]
  rfl

end TruthTables
