import Rulebook.Pattern.Program

/-!
Backtracking search for a match.

`run` follows the nodes of a program from left to right; what is to be done behind them is a
`Continuation`. A way that fails leaves a `Trace`: the marks of groups are kept, except where a node
restores them (inside of repetitions, alternatives and repetitions of one character do so). A
possessive repetition goes on with the marks of its last full turn, and where that turn has ended.
In the early edition it goes on at the place that the failed turn has noted last.
-/

namespace Rulebook.Pattern

/-- The ends of groups. Only the first `valid` marks hold. -/
structure Marks where
  valid : Nat := 0
  positions : Array (Option Nat) := #[]
  deriving Inhabited

namespace Marks

def set (marks : Marks) (index position : Nat) : Marks :=
  if index < marks.valid then
    { marks with positions := marks.positions.setIfInBounds index (some position) }
  else
    let kept := marks.positions.take marks.valid
    { valid := index + 1
      positions := (kept ++ Array.replicate (index - kept.size) none).push (some position) }

/-- The positions of a group's ends. -/
def group? (marks : Marks) (group : Nat) : Option (Nat × Nat) :=
  let first := 2 * (group - 1)
  if first + 1 < marks.valid then
    match (marks.positions[first]?).join, (marks.positions[first + 1]?).join with
    | some start, some stop => some (start, stop)
    | _, _ => none
  else none

/-- Some group ends before it begins. -/
def hasReversedGroup (marks : Marks) : Bool :=
  (List.range (marks.valid / 2)).any fun group =>
    (marks.group? (group + 1)).any fun (start, stop) => stop < start

/-- The marks after a way has failed: as they were before it, or only their number so. -/
def restore (before : Marks) (whole : Bool) (after : Marks) : Marks :=
  if whole then before else { after with valid := before.valid }

end Marks

/-- What an attempt leaves behind: the place noted last, which is the end of the match if there is
one, and the marks. -/
structure Trace where
  place : Nat
  marks : Marks := {}
  deriving Inhabited

namespace Trace

def goTo (trace : Trace) (place : Nat) : Trace := { trace with place }

def setMark (trace : Trace) (index position : Nat) : Trace :=
  { trace with marks := trace.marks.set index position }

/-- The trace after a way has failed, with the marks as they were before it. -/
def restore (before : Trace) (whole : Bool) (after : Trace) : Trace :=
  { after with marks := before.marks.restore whole after.marks }

end Trace

/-- What follows the nodes at hand. -/
inductive Continuation where
  /-- The match ends, but not at `forbidden`. `repeating` tells if this is within a repetition. -/
  | done (forbidden : Option Nat) (repeating : Bool)
  /-- One more turn of a repetition ends. `turns` counts the turns before it, and `last` is where
  the last turn that was not required has begun. -/
  | again (greed : Greed) (least : Nat) (most : Option Nat) (body : List Node)
      (turns : Nat) (last : Option Nat) (rest : List Node) (outer : Continuation)

def Continuation.isRepeating : Continuation → Bool
  | done _ repeating => repeating
  | again .. => true

/-- Whether there is a match, and what the attempt leaves behind. -/
abbrev Outcome := Bool × Trace

/-- A failed attempt leaves the place given. -/
def Outcome.failingAt (place : Nat) : Outcome → Outcome
  | (true, trace) => (true, trace)
  | (false, trace) => (false, trace.goTo place)

/-- Tries the alternatives in order, but none that `refused` excludes; what `restore` covers is
restored after each that fails. -/
def firstMatch (attempt : α → Trace → Outcome) (refused : α → Bool) (restore : Trace → Trace) :
    List α → Trace → Outcome
  | [], trace => (false, trace)
  | choice :: rest, trace =>
      if refused choice then firstMatch attempt refused restore rest trace
      else
        match attempt choice trace with
        | (true, trace) => (true, trace)
        | (false, trace) => firstMatch attempt refused restore rest (restore trace)

/-- Tries the numbers from `least` on upwards, `choices` of them, in the same way. -/
def firstMatchUp (attempt : Nat → Trace → Outcome) (restore : Trace → Trace) (least : Nat) :
    (choices : Nat) → Trace → Outcome
  | 0, trace => (false, trace)
  | choices + 1, trace =>
      match attempt least trace with
      | (true, trace) => (true, trace)
      | (false, trace) => firstMatchUp attempt restore (least + 1) choices (restore trace)

/-- Tries `choices` numbers, of which the last is `least`, downwards in the same way. -/
def firstMatchDown (attempt : Nat → Trace → Outcome) (refused : Nat → Bool)
    (restore : Trace → Trace) (least : Nat) : (choices : Nat) → Trace → Outcome
  | 0, trace => (false, trace)
  | choices + 1, trace =>
      if refused (least + choices) then firstMatchDown attempt refused restore least choices trace
      else
        match attempt (least + choices) trace with
        | (true, trace) => (true, trace)
        | (false, trace) => firstMatchDown attempt refused restore least choices (restore trace)

/-- A character at the position passes the test. -/
def CharTest.acceptsAt (test : CharTest) (text : Array Nat) (position : Nat) : Bool :=
  if bound : position < text.size then test.accepts text[position] else false

/-- How many characters from a position on pass a test, at most `limit`, with those `counted`
before. -/
def countMatching (text : Array Nat) (test : CharTest) (position counted : Nat) : Nat → Nat
  | 0 => counted
  | limit + 1 =>
      if test.acceptsAt text position then
        countMatching text test (position + 1) (counted + 1) limit
      else counted

/-- The place noted when `count` characters that pass a test have been counted. -/
def CharTest.placeAfter (test : CharTest) (position count : Nat) : Nat :=
  if test.isFoldedSet then position + count else position

/-- The plain character with which the nodes begin, if they do. -/
def plainFirst? : List Node → Option Nat
  | .one test :: _ => test.onlyCode?
  | _ => none

/-- The text does not have the character at the position, if one is given. -/
def lacksCode (text : Array Nat) (wanted : Option Nat) (position : Nat) : Bool :=
  match wanted with
  | none => false
  | some code => if bound : position < text.size then text[position] != code else true

/-- The nodes begin with an exact test that fails at the position. -/
def refusesFirst (text : Array Nat) (position : Nat) : List Node → Bool
  | .one test :: _ => test.isSelective && !test.acceptsAt text position
  | _ => false

def isWordAt (text : Array Nat) (ascii : Bool) (position : Nat) : Bool :=
  match text[position]? with
  | some code => isWordCode ascii code
  | none => false

def PlaceTest.holds (text : Array Nat) (position : Nat) : PlaceTest → Bool
  | textStart => position == 0
  | lineStart => position == 0 || text[position - 1]? == some 10
  | textEnd => position == text.size
  | lastLineEnd =>
      position == text.size || (position + 1 == text.size && text[position]? == some 10)
  | lineEnd => position == text.size || text[position]? == some 10
  | boundary ascii negated =>
      let before := 0 < position && isWordAt text ascii (position - 1)
      let after := isWordAt text ascii position
      text.size != 0 && ((before != after) != negated)

/-- The text at a position repeats what stands between two others. -/
def repeatsAt (text : Array Nat) (folding : Folding) (start position : Nat) : Nat → Bool
  | 0 => true
  | count + 1 =>
      match text[start]?, text[position]? with
      | some a, some b =>
          folding.fold a == folding.fold b && repeatsAt text folding (start + 1) (position + 1) count
      | _, _ => false

/-- Repeats a body exactly the given number of times; each turn begins where the last one ended. -/
def repeatExactly (attempt : Trace → Outcome) : Nat → Trace → Outcome
  | 0, trace => (true, trace)
  | turns + 1, trace =>
      match attempt trace with
      | (true, trace) => repeatExactly attempt turns trace
      | (false, trace) => (false, trace)

/-- Repeats a body while it matches and moves on from `last`, where the turn before has begun. Of a
turn that fails nothing remains, but for its place in the early edition. -/
def repeatWhile [edition : Edition] (attempt : Trace → Outcome) :
    Nat → (last : Option Nat) → Trace → Trace
  | 0, _, trace => trace
  | turns + 1, last, trace =>
      if last = some trace.place then trace
      else
        match attempt trace with
        | (true, after) => repeatWhile attempt turns (some trace.place) after
        | (false, after) =>
            match edition with
            | .early => trace.goTo after.place
            | .current => trace

/-- Matches the nodes and what follows them at a position. -/
def run [edition : Edition] (text : Array Nat) :
    (fuel : Nat) → List Node → Continuation → (position : Nat) → Trace → Outcome
  | 0, _, _, _, trace => (false, trace)
  | fuel + 1, nodes, next, position, trace =>
      let here := trace.goTo position
      match nodes with
      | [] =>
          match next with
          | .done forbidden _ => if forbidden = some position then (false, trace) else (true, here)
          | .again greed least most body turns last rest outer =>
              let another := fun (last : Option Nat) (trace : Trace) =>
                run text fuel body
                  (.again greed least most body (turns + 1) last rest outer) position trace
              let leave := fun (trace : Trace) => run text fuel rest outer position trace
              let mayGoOn := (most.all (turns < ·)) && last != some position
              Outcome.failingAt position <|
                if turns < least then another last here
                else if greed = .lazy then
                  match leave here with
                  | (true, after) => (true, after)
                  | (false, after) =>
                      let after := (here.restore outer.isRepeating after).goTo position
                      if mayGoOn then another (some position) after else (false, after)
                else if mayGoOn then
                  match another (some position) here with
                  | (true, after) => (true, after)
                  | (false, _) => leave here
                else leave here
      | node :: rest =>
          match node with
          | .one test =>
              if test.acceptsAt text position then run text fuel rest next (position + 1) trace
              else (false, trace)
          | .place test =>
              if test.holds text position then run text fuel rest next position trace
              else (false, trace)
          | .mark index => run text fuel rest next position (trace.setMark index position)
          | .joint => run text fuel rest next position trace
          | .repeatOne greed least most test =>
              let available := text.size - position
              let count := countMatching text test position 0
                (match most with | some most => min most available | none => available)
              let counted := trace.goTo (test.placeAfter position count)
              if available < least then (false, trace)
              else if count < least then (false, counted)
              else
                let attempt := fun (count : Nat) (trace : Trace) =>
                  run text fuel rest next (position + count) (trace.goTo (position + count))
                let choices := count + 1 - least
                match greed with
                | .greedy =>
                    let wanted := plainFirst? rest
                    firstMatchDown attempt (fun count => lacksCode text wanted (position + count))
                      (trace.restore next.isRepeating) least choices counted
                | .lazy =>
                    let stop := position + count
                    (firstMatchUp attempt (trace.restore next.isRepeating) least choices
                      counted).failingAt
                        (test.placeAfter stop (if test.acceptsAt text stop then 1 else 0))
                | .possessive => run text fuel rest next (position + count) counted
          | .repeatMany .possessive least most body =>
              let attempt := fun (trace : Trace) =>
                run text fuel body (.done none next.isRepeating) trace.place trace
              if edition = .early && text.size < position + least then (false, trace)
              else
                match repeatExactly attempt least here with
                | (false, after) => (false, after.goTo position)
                | (true, after) =>
                    let turns := match most with
                      | some most => min (most - least) (text.size + 1)
                      | none => text.size + 1
                    let after := repeatWhile attempt turns none after
                    run text fuel rest next after.place after
          | .repeatMany greed least most body =>
              run text fuel [] (.again greed least most body 0 none rest next) position trace
          | .atomic body =>
              match run text fuel body (.done none next.isRepeating) position here with
              | (true, after) => run text fuel rest next after.place after
              | (false, after) => (false, after.goTo position)
          | .look back negated body =>
              if position < back then
                if negated then run text fuel rest next position trace else (false, trace)
              else
                let start := position - back
                match run text fuel body (.done none next.isRepeating) start (trace.goTo start) with
                | (true, after) =>
                    if negated then (false, after) else run text fuel rest next position after
                | (false, after) =>
                    if negated then
                      run text fuel rest next position (trace.restore next.isRepeating after)
                    else (false, after)
          | .backReference group folding =>
              match trace.marks.group? group with
              | some (start, stop) =>
                  if start ≤ stop && repeatsAt text folding start position (stop - start) then
                    run text fuel rest next (position + (stop - start)) trace
                  else (false, trace)
              | none => (false, trace)
          | .conditional group present absent =>
              let isPresent := (trace.marks.group? group).any fun (start, stop) => start ≤ stop
              run text fuel ((if isPresent then present else absent) ++ rest) next position trace
          | .branch alternatives =>
              firstMatch (fun alternative trace =>
                  run text fuel (alternative ++ rest) next position (trace.goTo position))
                (refusesFirst text position) (trace.restore next.isRepeating) alternatives trace

end Rulebook.Pattern
