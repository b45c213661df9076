import Klogproc.Go.Strings

/-!
# The access-log line parser

`load/accesslog/parser.go` reads an HTTP access-log line.  `LineParser.tokenize` splits it at
single spaces into ten tokens, where a token opened by `"` or `[` runs to the matching `"` or
`]`.  `LineParser.ParseLine` reads the fields of a record off those tokens, and `getProcTime`
reads the `rt=` processing time.

* `tokenizeStep` is one iteration of the loop of `tokenize`, with the loop's local variables in
  `TokState`.  Every index and slice expression of the loop is `Go.index` or `Go.slice`, so a
  bad bound would be a panic of the model.
* `tokenizeStep_ensures`: one iteration never panics and keeps the number of tokens.  So
  `tokenize` never panics and returns ten tokens or an error, and `ParseLine`, which indexes
  those tokens, never panics either (`tokenize_parseLine_noPanic`).
* The library functions that `ParseLine` calls (`url.Parse`, `url.ParseQuery`,
  `strconv.ParseFloat`) are the fields of `Externals`; the results hold for every choice of them.
-/

namespace Klogproc.Accesslog

open Klogproc.Go

/-- The byte `'"'`. -/
def dquote : UInt8 := 34

/-- The byte `'['`. -/
def lbracket : UInt8 := 91

/-- The byte `']'`. -/
def rbracket : UInt8 := 93

/-- `testOpenQuot`: the byte that closes a token opened by `c`, or `0` when `c` opens none. -/
def testOpenQuot (c : UInt8) : UInt8 :=
  if c = dquote then dquote else if c = lbracket then rbracket else 0

/-- `isCloseQuot`: `c` closes the token opened by `start`. -/
def isCloseQuot (start c : UInt8) : Bool :=
  start == dquote && c == dquote || start == lbracket && c == rbracket

/-- The error of `updateTokenAt`: `failed to get token [index] (num. available: [available])`. -/
structure TokenError where
  index : Nat
  available : Nat
  deriving DecidableEq, Repr

/-- The text of a `TokenError`. -/
def TokenError.message (e : TokenError) : String :=
  let i := e.index
  let n := e.available
  s!"failed to get token [{i}] (num. available: [{n}])"

/-- `LineParser.updateTokenAt`: token `i` becomes `value`, or an error when there is no
token `i`. -/
def updateTokenAt (items : List (List UInt8)) (i : Nat) (value : List UInt8) :
    Result TokenError (List (List UInt8)) :=
  if i < items.length then setAt items i value else .err ⟨i, items.length⟩

/-- The local variables of `tokenize` that its loop updates. -/
structure TokState where
  items : List (List UInt8)
  currQuoted : List (List UInt8)
  currQuotChar : UInt8
  parsedPos : Nat
  deriving DecidableEq, Repr

/-- Their values before the loop: ten empty tokens, and no token open. -/
def TokState.init : TokState := ⟨List.replicate 10 [], [], 0, 0⟩

/-- One iteration of the loop of `tokenize` (lines 81–118), on the piece `item` of the line.
When no token is open, the two tests of `item[len(item)-1]` against `closeChar` are one test
here: Go evaluates them only when `closeChar != 0`, and they read the same byte. -/
def tokenizeStep (st : TokState) (item : List UInt8) : Result TokenError TokState :=
  if item.length = 0 then .ok st
  else if st.currQuotChar = 0 then do
    let c0 ← index item 0
    let closeChar := testOpenQuot c0
    if closeChar ≠ 0 then do
      let cl ← index item (item.length - 1)
      if cl ≠ closeChar then do
        let rest ← slice item 1 item.length
        pure { st with currQuoted := st.currQuoted ++ [rest], currQuotChar := c0 }
      else if item.length > 1 then do
        let v ← slice item 1 (item.length - 1)
        let items ← updateTokenAt st.items st.parsedPos v
        pure { st with items, parsedPos := st.parsedPos + 1 }
      else pure { st with parsedPos := st.parsedPos + 1 }
    else if st.parsedPos < st.items.length then do
      let items ← setAt st.items st.parsedPos item
      pure { st with items, parsedPos := st.parsedPos + 1 }
    else pure st
  else do
    let cl ← index item (item.length - 1)
    if isCloseQuot st.currQuotChar cl then do
      let v ← slice item 0 (item.length - 1)
      let items ← updateTokenAt st.items st.parsedPos (join (st.currQuoted ++ [v]) space)
      pure ⟨items, [], 0, st.parsedPos + 1⟩
    else do
      let c0 ← index item 0
      if isCloseQuot st.currQuotChar c0 then pure st
      else do
        let cl' ← index item (item.length - 1)
        if isCloseQuot st.currQuotChar cl' then pure st
        else pure { st with currQuoted := st.currQuoted ++ [item] }

/-- `LineParser.tokenize`: the ten tokens of the line `s`. -/
def tokenize (s : List UInt8) : Result TokenError (List (List UInt8)) := do
  let st ← (split s space).foldlM tokenizeStep TokState.init
  pure st.items

/-! ## `getProcTime` -/

/-- The bytes `rt=`. -/
def rtPrefix : List UInt8 := [114, 116, 61]

/-- The errors of `getProcTime`: `failed to parse proc. time expr: cause` when
`strconv.ParseFloat` fails with `cause`, and `failed to parse proc. time expr` when the token
does not start with `rt=`. -/
structure ProcTimeError where
  expr : List UInt8
  cause : Option String
  deriving DecidableEq, Repr

/-- `getProcTime`, with `strconv.ParseFloat` as `parseFloat`.  The `-1` that Go returns beside
an error is left out: no caller reads it. -/
def getProcTime (parseFloat : List UInt8 → Except String Float) (procTimeExpr : List UInt8) :
    Result ProcTimeError Float :=
  if procTimeExpr = [] then .ok (-1)
  else if stringsIndex procTimeExpr rtPrefix = 0 then do
    let rest ← slice procTimeExpr 3 procTimeExpr.length
    match parseFloat (trim rest dquote) with
    | .error cause => .err ⟨procTimeExpr, some cause⟩
    | .ok pt => pure pt
  else .err ⟨procTimeExpr, none⟩

/-! ## `ParseLine` -/

/-- The part of a `*url.URL` that `ParseLine` reads. -/
structure URL where
  path : List UInt8
  rawQuery : List UInt8

/-- The library functions `ParseLine` calls: `url.Parse`, `url.ParseQuery` (whose result type
is `Values`) and `strconv.ParseFloat`.  An `Except.error` carries the error's text. -/
structure Externals (Values : Type) where
  urlParse : List UInt8 → Except String URL
  parseQuery : List UInt8 → Except String Values
  parseFloat : List UInt8 → Except String Float

/-- `servicelog.LineParsingError`: the line number and the message. -/
structure LineParsingError where
  lineNum : Int
  message : String

/-- The errors `ParseLine` returns. -/
inductive ParseLineError where
  | lineParsing (e : LineParsingError)
  | procTime (e : ProcTimeError)

/-- `ParsedAccessLog`.  `urlArgs` is `none` for Go's `nil` map, when the request has no URL. -/
structure ParsedAccessLog (Values : Type) where
  ipAddress : List UInt8
  username : List UInt8
  datetime : List UInt8
  httpMethod : List UInt8
  httpVersion : List UInt8
  path : List UInt8
  urlArgs : Option Values
  referrer : List UInt8
  userAgent : List UInt8
  procTime : Float

variable {Values : Type}

/-- The request token `tokens[4]` of `ParseLine` (lines 162–179): the method, the version, the
path and the query arguments.  Without three parts there is no URL. -/
def parseRequest (ext : Externals Values) (lineNum : Int) (urlBlock : List (List UInt8)) :
    Result ParseLineError (List UInt8 × List UInt8 × List UInt8 × Option Values) :=
  if urlBlock.length = 3 then do
    let httpMethod ← index urlBlock 0
    let httpVersion ← index urlBlock 2
    let rawURL ← index urlBlock 1
    match ext.urlParse rawURL with
    | .error msg => .err (.lineParsing ⟨lineNum, msg⟩)
    | .ok parsedURL =>
      match ext.parseQuery parsedURL.rawQuery with
      | .error msg => .err (.lineParsing ⟨lineNum, msg⟩)
      | .ok urlArgs => pure (httpMethod, httpVersion, parsedURL.path, some urlArgs)
  else pure ([], [], [], none)

/-- `LineParser.ParseLine`.  A processing-time error is returned without the record that Go
returns beside it: the callers drop a record that comes with an error. -/
def parseLine (ext : Externals Values) (s : List UInt8) (lineNum : Int) :
    Result ParseLineError (ParsedAccessLog Values) :=
  match tokenize s with
  | .panic => .panic
  | .err e => .err (.lineParsing ⟨lineNum, e.message⟩)
  | .ok tokens => do
    let ipAddress ← index tokens 0
    let username ← index tokens 2
    let datetime ← index tokens 3
    let request ← index tokens 4
    let (httpMethod, httpVersion, path, urlArgs) ←
      parseRequest ext lineNum (split request space)
    let referrer ← index tokens 7
    let userAgent ← index tokens 8
    let procTimeExpr ← index tokens 9
    match getProcTime ext.parseFloat procTimeExpr with
    | .panic => .panic
    | .err e => .err (.procTime e)
    | .ok procTime =>
      pure ⟨ipAddress, username, datetime, httpMethod, httpVersion, path, urlArgs, referrer,
        userAgent, procTime⟩

/-! ## No panic -/

/-- `updateTokenAt` never panics and keeps the number of tokens. -/
theorem updateTokenAt_ensures (items : List (List UInt8)) (i : Nat) (v : List UInt8) :
    Result.Ensures (fun items' => items'.length = items.length) (updateTokenAt items i v) := by
  unfold updateTokenAt
  split
  · next h => rw [setAt_of_lt v h]; exact Result.ensures_ok (List.length_set ..)
  · exact Result.ensures_err _

/-- One iteration of the loop of `tokenize` never panics and keeps the number of tokens: every
piece it indexes is non-empty, and it writes a token only below their number. -/
theorem tokenizeStep_ensures (st : TokState) (item : List UInt8) :
    Result.Ensures (fun st' => st'.items.length = st.items.length) (tokenizeStep st item) := by
  unfold tokenizeStep
  by_cases hne : item = []
  · simp [hne, Result.ensures_ok]
  have hlen : item.length ≠ 0 := by simpa using hne
  simp only [hlen, if_false, index_zero hne, index_last hne, Result.ok_bind]
  split_ifs with hq hc hcl hl hp hcq h0
  · rw [slice_to_length (by omega) (by omega)]
    exact Result.ensures_ok rfl
  · simp only [slice_one_last hl, Result.ok_bind]
    exact Result.ensures_bind (updateTokenAt_ensures _ _ _) fun _ h => Result.ensures_ok h
  · exact Result.ensures_ok rfl
  · rw [setAt_of_lt _ hp]
    exact Result.ensures_ok (List.length_set ..)
  · exact Result.ensures_ok rfl
  · simp only [slice_zero_last hne, Result.ok_bind]
    exact Result.ensures_bind (updateTokenAt_ensures _ _ _) fun _ h => Result.ensures_ok h
  all_goals exact Result.ensures_ok rfl

/-- `tokenize` never panics and returns ten tokens, or an error. -/
theorem tokenize_ensures (s : List UInt8) :
    Result.Ensures (fun toks => toks.length = 10) (tokenize s) := by
  have hstep : ∀ st item, st.items.length = 10 →
      Result.Ensures (fun st' : TokState => st'.items.length = 10) (tokenizeStep st item) :=
    fun st item h => (tokenizeStep_ensures st item).mono fun _ h' => h'.trans h
  exact Result.ensures_bind (Result.ensures_foldlM hstep _ _ rfl) fun _ h => Result.ensures_ok h

/-- `getProcTime` slices past `rt=` only when the token starts with it. -/
theorem getProcTime_ensures (parseFloat : List UInt8 → Except String Float) (e : List UInt8) :
    Result.Ensures (fun _ => True) (getProcTime parseFloat e) := by
  unfold getProcTime
  split_ifs with h0 hrt
  · exact Result.ensures_ok trivial
  · have h3 : 3 ≤ e.length :=
      (List.isPrefixOf_iff_prefix.1 ((stringsIndex_eq_zero_iff _ _).1 hrt)).length_le
    rw [slice_to_length (by omega) (by omega), Result.ok_bind]
    split
    · exact Result.ensures_err _
    · exact Result.ensures_ok trivial
  · exact Result.ensures_err _

theorem parseRequest_ensures (ext : Externals Values) (lineNum : Int)
    (urlBlock : List (List UInt8)) :
    Result.Ensures (fun _ => True) (parseRequest ext lineNum urlBlock) := by
  unfold parseRequest
  split_ifs with h3
  · match urlBlock, h3 with
    | [m, u, v], _ =>
      simp only [index, Result.ofOption, Int.reduceLE, Int.reduceToNat, if_true,
        List.getElem?_cons_zero, List.getElem?_cons_succ, Result.ok_bind]
      split
      · exact Result.ensures_err _
      · split
        · exact Result.ensures_err _
        · exact Result.ensures_ok trivial
  · exact Result.ensures_ok trivial

theorem parseLine_ensures (ext : Externals Values) (s : List UInt8) (lineNum : Int) :
    Result.Ensures (fun _ => True) (parseLine ext s lineNum) := by
  have ht := tokenize_ensures s
  unfold parseLine
  split
  · next h => exact absurd h ht.1
  · exact Result.ensures_err _
  · next tokens h =>
    match tokens, ht.2 tokens h with
    | [t0, t1, t2, t3, t4, t5, t6, t7, t8, t9], _ =>
      simp only [index, Result.ofOption, Int.reduceLE, Int.reduceToNat, if_true,
        List.getElem?_cons_zero, List.getElem?_cons_succ, Result.ok_bind]
      refine Result.ensures_bind (parseRequest_ensures ext lineNum _) fun _ _ => ?_
      have hp := getProcTime_ensures ext.parseFloat t9
      split
      · next h => exact absurd h hp.1
      · exact Result.ensures_err _
      · exact Result.ensures_ok trivial

/-- For every line, `tokenize` does not panic and returns an error or exactly ten tokens, and
`ParseLine`, `getProcTime` included, does not panic: it returns a record, a line-parsing error
or a processing-time error. -/
theorem tokenize_parseLine_noPanic (ext : Externals Values) (s : List UInt8) (lineNum : Int) :
    tokenize s ≠ .panic ∧ (∀ toks, tokenize s = .ok toks → toks.length = 10) ∧
      parseLine ext s lineNum ≠ .panic :=
  ⟨(tokenize_ensures s).1, (tokenize_ensures s).2, (parseLine_ensures ext s lineNum).1⟩

end Klogproc.Accesslog
