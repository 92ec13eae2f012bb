import EventForge.Script.SpecialMethod

/-!
# Functions that make streams

Streams are counted, repeated, cut, joined and combined without looking at more of their members
than are asked for.
-/

namespace EventForge

namespace ScriptRun

/-- All ways to choose one member of each of some lists, the last one changing first. -/
def products : List (List ScriptValue) → List (List ScriptValue)
  | [] => [[]]
  | items :: others =>
      let rest := products others
      items.flatMap fun item => rest.map fun tail => item :: tail

/-- All ways to choose a number of members in their order. -/
def combinations : Nat → List ScriptValue → List (List ScriptValue)
  | 0, _ => [[]]
  | _ + 1, [] => []
  | count + 1, item :: rest =>
      (combinations count rest).map (item :: ·) ++ combinations (count + 1) rest

/-- All ways to choose a number of members in their order, each of them as often as wanted.  The
fuel bounds the number of the members that are left. -/
def repeatedCombinations : Nat → Nat → List ScriptValue → List (List ScriptValue)
  | 0, _, _ => []
  | _, 0, _ => [[]]
  | _, _, [] => []
  | fuel + 1, count + 1, item :: rest =>
      (repeatedCombinations fuel count (item :: rest)).map (item :: ·) ++
        repeatedCombinations fuel (count + 1) rest

/-- A list with the ways to take a member out of it. -/
def withoutEach : List ScriptValue → List (ScriptValue × List ScriptValue)
  | [] => []
  | item :: rest =>
      (item, rest) :: (withoutEach rest).map fun (other, left) => (other, item :: left)

/-- All ways to choose a number of members in any order. -/
def permutations : Nat → List ScriptValue → List (List ScriptValue)
  | 0, _ => [[]]
  | count + 1, items =>
      (withoutEach items).flatMap fun (item, rest) =>
        (permutations count rest).map (item :: ·)

def streamOfTuples (rows : List (List ScriptValue)) : ScriptRun ScriptValue :=
  newStream (.values (rows.map .tuple))

/-- Members that stand together with the same key. -/
def groupsOf (key : ScriptValue) : List ScriptValue → ScriptRun
    (List (ScriptValue × List ScriptValue))
  | [] => return []
  | item :: rest => do
      let rank ← if key == .nothing then pure item else call key [item]
      match ← groupsOf key rest with
      | (other, items) :: groups =>
          if ← alike rank other then return (rank, item :: items) :: groups
          return (rank, [item]) :: (other, items) :: groups
      | [] => return [(rank, [item])]

/-- A number of members that an argument names. -/
def countOf (value : ScriptValue) (refusal : Text) : ScriptRun Nat := do
  match ← index? value with
  | some number =>
      if number < 0 then refuseValue refusal
      return number.toNat
  | none => refuseValue refusal

/-- A part of a stream. -/
def slicedStream (given : List ScriptValue) : ScriptRun ScriptValue := do
  let bad : Text := "Indices for islice() must be None or an integer: 0 <= x <= sys.maxsize."
  let bound (value : ScriptValue) (standard : Nat) : ScriptRun Nat := do
    if value == .nothing then return standard else countOf value bad
  match given with
  | [source, stop] =>
      let stop ← if stop == .nothing then pure none else pure (some (← countOf stop
        "Stop argument for islice() must be None or an integer: 0 <= x <= sys.maxsize."))
      newStream (.sliced (← iterate source) 0 0 stop 1)
  | source :: start :: stop :: step =>
      let first ← bound start 0
      let stop ← if stop == .nothing then pure none else pure (some (← bound stop 0))
      let step ← bound (step.headD .nothing) 1
      if step = 0 then
        refuseValue "Step for islice() must be a positive integer or None."
      newStream (.sliced (← iterate source) 0 first stop step)
  | _ => refuseType "islice expected at least 2 arguments, got 1"

/-- The functions of the module for streams. -/
def streamTool (name : String) (arguments : ScriptArguments) : ScriptRun ScriptValue := do
  let given := arguments.given
  let option (key : String) (standard : ScriptValue) : ScriptValue :=
    (arguments.named.get? (Text.ofString key)).getD standard
  match name, given with
  | "count", _ =>
      newStream (.counted (given.headD (option "start" (.integer 0)))
        (given.getD 1 (option "step" (.integer 1))))
  | "cycle", [source] => newStream (.cycled (some (← iterate source)) [] [])
  | "repeat", value :: times =>
      match times.headD (option "times" .nothing) with
      | .nothing => newStream (.repeated value none)
      | times => newStream (.repeated value (some (← indexOf times).toNat))
  | "chain", _ => newStream (.chained none (← newStream (.values given)))
  | "from_iterable", [source] => newStream (.chained none (← iterate source))
  | "islice", _ => slicedStream given
  | "takewhile", [function, source] =>
      newStream (.takenWhile function (← iterate source) false)
  | "dropwhile", [function, source] =>
      newStream (.droppedWhile function (← iterate source) false)
  | "filterfalse", [function, source] =>
      newStream (.chosen false function (← iterate source))
  | "starmap", [function, source] => newStream (.starred function (← iterate source))
  | "accumulate", source :: function =>
      let function := match function.headD (option "func" .nothing) with
        | .nothing => .native "operator" "add"
        | function => function
      let first := match option "initial" .nothing with
        | .nothing => none
        | first => some first
      newStream (.accumulated function (← iterate source) first false)
  | "zip_longest", _ =>
      newStream (.zippedLongest ((← given.mapM iterate).map some) (option "fillvalue" .nothing))
  | "compress", [source, chosen] =>
      let pairs := (← itemsOf source).zip (← itemsOf chosen)
      let kept ← pairs.filterM fun pair => isTrue pair.2
      newStream (.values (kept.map fun pair => pair.1))
  | "pairwise", [source] =>
      let items ← itemsOf source
      streamOfTuples ((items.zip (items.drop 1)).map fun pair => [pair.1, pair.2])
  | "product", _ =>
      let lists ← given.mapM itemsOf
      let times ← indexOf (option "repeat" (.integer 1))
      streamOfTuples (products (List.replicate times.toNat lists).flatten)
  | "permutations", source :: count =>
      let items ← itemsOf source
      let count ← match count.headD (option "r" .nothing) with
        | .nothing => pure items.length
        | count => countOf count "r must be non-negative"
      streamOfTuples (permutations count items)
  | "combinations", [source, count] =>
      let items ← itemsOf source
      streamOfTuples (combinations (← countOf count "r must be non-negative") items)
  | "combinations_with_replacement", [source, count] =>
      let items ← itemsOf source
      let count ← countOf count "r must be non-negative"
      streamOfTuples (repeatedCombinations (count + items.length + 1) count items)
  | "groupby", source :: key =>
      let groups ← groupsOf (key.headD (option "key" .nothing)) (← itemsOf source)
      newStream (.values (← groups.mapM fun group => do
        return .tuple [group.1, ← newStream (.values group.2)]))
  | "tee", source :: count =>
      let items ← itemsOf source
      let count ← indexOf (count.headD (.integer 2))
      return .tuple (← (List.replicate count.toNat items).mapM fun items =>
        newStream (.values items))
  | _, _ => return .unknown

end ScriptRun

end EventForge
