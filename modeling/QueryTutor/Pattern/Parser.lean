import QueryTutor.Numeral
import QueryTutor.Pattern.Escape
import QueryTutor.Pattern.Flags
import QueryTutor.Pattern.Width
import QueryTutor.Text.Name

/-!
# Reading patterns

A pattern is read symbol by symbol.  Groups that are still open wait on a stack, so that the
innermost open group is known when the text ends too early.
-/

namespace QueryTutor.Pattern

open Text

/-- What can be repeated: places cannot, and a repeat cannot be repeated again. -/
inductive Shape where
  | atom
  | place
  | repeated
  deriving DecidableEq, Repr

/-- What the patterns inside a group are put into when it closes. -/
inductive GroupKind where
  | plain
  | capture (index : Nat)
  | atomic
  | within (on off : List Flag)
  | ahead (holds : Bool)
  | behind (holds : Bool) (outermost : Bool)
  | ifGroup (index : Nat)

/-- A group that is being read: its finished branches and the items of the current one, last first.
-/
structure Frame where
  kind : GroupKind
  start : Nat
  verbose : Bool
  branches : List Pattern := []
  items : List (Shape × Pattern) := []

/-- What has been read of the whole pattern: the number of groups opened, their names, the widths of
those closed, the first group inside the current lookbehind, the groups asked for by number, and the
switches. -/
structure Context where
  groups : Nat := 1
  names : List (List Char × Nat) := []
  widths : List (Nat × Nat × Nat) := []
  lookbehind : Option Nat := none
  asked : List (Nat × Nat) := []
  flags : List Flag := []

/-- The greatest count of repeats there is no number for. -/
def countLimit : Nat := 4294967295

/-- The greatest number of a group. -/
def groupLimit : Nat := 1073741823

/-- The branch that the items of a group make. -/
def Frame.branch (f : Frame) : Pattern :=
  ofList (f.items.reverse.map (·.2))

/-- The pattern inside a group. -/
def Frame.body (f : Frame) : Pattern :=
  choice (f.branches.reverse ++ [f.branch])

/-- One more item in the current branch. -/
def Frame.push (f : Frame) (shape : Shape) (p : Pattern) : Frame :=
  { f with items := (shape, p) :: f.items }

/-- A group that can be referred to: it is closed. -/
def Context.isClosed (ctx : Context) (index : Nat) : Bool :=
  index < ctx.groups && (ctx.widths.lookup index).isSome

/-- A group asked for inside a lookbehind must be closed and stand before it. -/
def Context.checkLookbehind (ctx : Context) (index start : Nat) : Except Error Unit :=
  match ctx.lookbehind with
  | none => .ok ()
  | some first =>
    if !ctx.isClosed index then fail .openGroup start
    else if first ≤ index then fail .groupInLookbehind start
    else .ok ()

/-- A group with this number, referred to by text of `length` characters that has just been read. -/
def reference (ctx : Context) (index length : Nat) (s : Source) : Except Error Pattern := do
  if !ctx.isClosed index then fail .openGroup (s.place - length)
  else
    ctx.checkLookbehind index s.place
    return .same index

/-- The pattern of an escape that begins with a digit other than zero: a group, or three digits of
base eight. -/
def digitEscape (ctx : Context) (c : Char) (s : Source) : Except Error (Pattern × Source) := do
  let (second, s) ← s.takeUpTo Char.isDigit 1
  let (third, s) ←
    if isOctal c && !second.isEmpty && second.all isOctal then s.takeUpTo isOctal 1
    else pure ([], s)
  let digits := c :: second ++ third
  let escape := '\\' :: digits
  if !third.isEmpty then
    let value := digitsValue 8 digits
    if value > 255 then fail (.octalTooLarge escape) (s.place - escape.length)
    else return (ofCode value, s)
  else
    let index := digitsValue 10 digits
    if index < ctx.groups then return (← reference ctx index escape.length s, s)
    else fail (.invalidReference index) (s.place - (escape.length - 1))

/-- The item that the escape of `c` stands for. -/
def readEscape (ctx : Context) (c : Char) (s : Source) :
    Except Error (Shape × Pattern × Source) := do
  match place? c, categoryItem? c, controlCode? c, codeEscape? c s with
  | some p, _, _, _ => return (.place, .place p, s)
  | none, some item, _, _ => return (.atom, .set false [item], s)
  | none, none, some n, _ => return (.atom, ofCode n, s)
  | none, none, none, some r =>
    let (n, s) ← r
    return (.atom, ofCode n, s)
  | none, none, none, none =>
    if c == '0' then
      let (ds, s) ← s.takeUpTo isOctal 2
      return (.atom, ofCode (digitsValue 8 ds), s)
    else if c.isDigit then
      let (p, s) ← digitEscape ctx c s
      return (.atom, p, s)
    else
      let (n, s) ← plainEscape c s
      return (.atom, ofCode n, s)

/-- The bounds of a count in braces whose opening brace has just been read; nothing if it is no
count. -/
def readCount (s : Source) : Except Error (Option (Nat × Option Nat × Source)) := do
  let start := s.place
  if s.meets '\x7d' then return none
  else
    let (lo, s) ← s.takeWhile Char.isDigit
    let (hi, s) ←
      if s.meets ',' then do (← s.next).takeWhile Char.isDigit else pure (lo, s)
    if !s.meets '\x7d' then return none
    else
      let s ← s.next
      let least := digitsValue 10 lo
      let most := if hi.isEmpty then none else some (digitsValue 10 hi)
      if countLimit ≤ least || most.any (countLimit ≤ ·) then .error .countTooLarge
      else if most.any (· < least) then fail .leastAboveMost start
      else return some (least, most, s)

/-- The bounds of the repeat that a symbol stands for; nothing if it is no repeat here. -/
def readRepeat (t : List Char) (s : Source) : Except Error (Option (Nat × Option Nat × Source)) :=
  if t == ['?'] then .ok (some (0, some 1, s))
  else if t == ['*'] then .ok (some (0, none, s))
  else if t == ['+'] then .ok (some (1, none, s))
  else readCount s

/-- Which repeats are tried first, by the symbol behind the bounds. -/
def readGreed (s : Source) : Except Error (Greed × Source) := do
  if s.meets '?' then return (.lazy, ← s.next)
  else if s.meets '+' then return (.possessive, ← s.next)
  else return (.greedy, s)

/-- The last item of a group repeated, by a symbol that stands at `start`. -/
def Frame.repeatLast (f : Frame) (start : Nat) (least : Nat) (most : Option Nat) (s : Source) :
    Except Error (Frame × Source) := do
  match f.items with
  | [] => fail .nothingToRepeat start
  | (.place, _) :: _ => fail .nothingToRepeat start
  | (.repeated, _) :: _ => fail .multipleRepeat start
  | (.atom, p) :: items =>
    let (greed, s) ← readGreed s
    return ({ f with items := (.repeated, .many greed least most p) :: items }, s)

/-- What an opening parenthesis begins. -/
inductive Opening where
  | nothing
  | item (p : Pattern)
  | switches (on : List Flag)
  | group (kind : GroupKind) (verbose : Bool)

/-- The name of a group is made as a name is; it has just been read with its terminator. -/
def checkName (name : List Char) (s : Source) : Except Error Unit :=
  if isName name then .ok () else fail (.badName name) (s.place - (name.length + 1))

/-- A group that captures its text, opened with or without a name. -/
def openCapture (ctx : Context) (name? : Option (List Char)) (verbose : Bool) (s : Source) :
    Except Error (Opening × Context × Source) :=
  let index := ctx.groups
  let opened := Opening.group (.capture index) verbose
  match name? with
  | none => .ok (opened, { ctx with groups := index + 1 }, s)
  | some name =>
    match ctx.names.lookup name with
    | some earlier => fail (.redefinedName name index earlier) (s.place - (name.length + 1))
    | none => .ok (opened, { ctx with groups := index + 1, names := (name, index) :: ctx.names }, s)

/-- The extensions behind `(?P`: a group with a name, or the text of one. -/
def openNamed (ctx : Context) (verbose : Bool) (s : Source) :
    Except Error (Opening × Context × Source) := do
  if s.meets '<' then
    let (name, s) ← (← s.next).name "group name" '>'
    checkName name s
    openCapture ctx (some name) verbose s
  else if s.meets '=' then
    let (name, s) ← (← s.next).name "group name" ')'
    checkName name s
    match ctx.names.lookup name with
    | none => fail (.unknownName name) (s.place - (name.length + 1))
    | some index => return (.item (← reference ctx index (name.length + 1) s), ctx, s)
  else
    match s.head? with
    | none => fail .unexpectedEnd s.place
    | some t =>
      let s ← s.next
      fail (.unknownExtension ('?' :: 'P' :: t)) (s.place - (t.length + 2))

/-- The condition of a group with two branches: a group by its name or number. -/
def openCondition (ctx : Context) (verbose : Bool) (s : Source) :
    Except Error (Opening × Context × Source) := do
  let (name, s) ← s.name "group name" ')'
  let start := s.place - (name.length + 1)
  let opened := fun (index : Nat) (ctx : Context) => do
    ctx.checkLookbehind index s.place
    return (Opening.group (.ifGroup index) verbose, ctx, s)
  if isName name then
    match ctx.names.lookup name with
    | none => fail (.unknownName name) start
    | some index => opened index ctx
  else
    match Numeral.whole? name with
    | some (.ofNat 0) => fail .badGroupNumber start
    | some (.ofNat index) =>
      if groupLimit ≤ index then fail (.invalidReference index) start
      else
        let known := ctx.asked.any (·.1 == index)
        opened index (if known then ctx else { ctx with asked := ctx.asked ++ [(index, start)] })
    | _ => fail (.badName name) start

/-- What a parenthesis at `start` begins; the parenthesis has just been read. `fresh` says that
nothing has been read before it, which switches for the whole pattern require. -/
def readOpening (ctx : Context) (start : Nat) (verbose fresh : Bool) (s : Source) :
    Except Error (Opening × Context × Source) := do
  if !s.meets '?' then openCapture ctx none verbose s
  else
    let s ← s.next
    match s.head? with
    | none => fail .unexpectedEnd s.place
    | some t =>
      let s ← s.next
      let group := fun kind => (Opening.group kind verbose, ctx, s)
      if t == ['P'] then openNamed ctx verbose s
      else if t == [':'] then return group .plain
      else if t == ['#'] then
        match ← s.skipThrough? [')'] with
        | some s => return (.nothing, ctx, s)
        | none => fail .unterminatedComment start
      else if t == ['='] then return group (.ahead true)
      else if t == ['!'] then return group (.ahead false)
      else if t == ['<'] then
        match s.head? with
        | none => fail .unexpectedEnd s.place
        | some d =>
          let s ← s.next
          if d != ['='] && d != ['!'] then
            fail (.unknownExtension ('?' :: '<' :: d)) (s.place - (d.length + 2))
          else
            let outermost := ctx.lookbehind.isNone
            let ctx := if outermost then { ctx with lookbehind := some ctx.groups } else ctx
            return (.group (.behind (d == ['=']) outermost) verbose, ctx, s)
      else if t == ['('] then openCondition ctx verbose s
      else if t == ['>'] then return group .atomic
      else if (flag? t).isSome || t == ['-'] then
        let (switches, s) ← readSwitches t s
        match switches with
        | .whole on =>
          if fresh then return (.switches on, { ctx with flags := ctx.flags ++ on }, s)
          else fail .lateGlobalFlags start
        | .part on off =>
          let verbose := (verbose || on.contains .verbose) && !off.contains .verbose
          return (.group (.within on off) verbose, ctx, s)
      else fail (.unknownExtension ('?' :: t)) (s.place - (t.length + 1))

/-- The item that a closed group makes, and the context behind it. -/
def closeGroup (ctx : Context) (f : Frame) : Pattern × Context :=
  let p := f.body
  match f.kind with
  | .plain => (p, ctx)
  | .capture index =>
    (.group index p, { ctx with widths := (index, p.width ctx.widths) :: ctx.widths })
  | .atomic => (.atomic p, ctx)
  | .within on off => (.within on off p, ctx)
  | .ahead holds => (.ahead holds p, ctx)
  | .behind holds outermost =>
    let (least, most) := p.width ctx.widths
    (.behind holds least most p, if outermost then { ctx with lookbehind := none } else ctx)
  | .ifGroup index =>
    match f.branches with
    | yes :: _ => (.ifGroup index yes f.branch, ctx)
    | [] => (.ifGroup index f.branch .empty, ctx)

/-- The next branch of a group begins, at a bar that stands at `start`; a condition has two of them
at most. -/
def Frame.nextBranch (f : Frame) (start : Nat) : Except Error Frame :=
  match f.kind, f.branches with
  | .ifGroup _, _ :: _ => fail .tooManyBranches start
  | _, _ => .ok { f with branches := f.branch :: f.branches, items := [] }

/-- The characters between symbols that a verbose pattern may hold. -/
def isVerboseBlank (t : List Char) : Bool :=
  [[' '], ['\t'], ['\n'], ['\r'], ['\x0b'], ['\x0c']].contains t

/-- The character `c`, which stands at `start`, read as a part of the innermost group. -/
def readSingle (ctx : Context) (f : Frame) (fresh : Bool) (c : Char) (start : Nat) (s : Source) :
    Except Error (Context × Frame × Option Frame × Source) := do
  let stay := fun (f : Frame) (s : Source) => (ctx, f, (none : Option Frame), s)
  match c with
  | '[' =>
    let (p, s) ← readSet s
    return stay (f.push .atom p) s
  | '.' => return stay (f.push .atom .any) s
  | '^' => return stay (f.push .place (.place .lineStart)) s
  | '$' => return stay (f.push .place (.place .lineEnd)) s
  | '(' =>
    let (opening, ctx, s) ← readOpening ctx start f.verbose (fresh && f.items.isEmpty) s
    match opening with
    | .nothing => return (ctx, f, none, s)
    | .item p => return (ctx, f.push .atom p, none, s)
    | .switches _ => return (ctx, { f with verbose := ctx.flags.contains .verbose }, none, s)
    | .group kind verbose => return (ctx, f, some { kind, start, verbose }, s)
  | c =>
    if c == '*' || c == '+' || c == '?' || c == '\x7b' then
      match ← readRepeat [c] s with
      | none => return stay (f.push .atom (.char c)) s
      | some (least, most, s) =>
        let (f, s) ← f.repeatLast start least most s
        return stay f s
    else return stay (f.push .atom (.char c)) s

/-- The symbol `t`, which stands at `start`, read as a part of the innermost group: a character, or
an escape. -/
def readItem (ctx : Context) (f : Frame) (fresh : Bool) (t : List Char) (start : Nat) (s : Source) :
    Except Error (Context × Frame × Option Frame × Source) := do
  match t with
  | [] => return (ctx, f, none, s)
  | [c] => readSingle ctx f fresh c start s
  | _ :: c :: _ =>
    let (shape, p, s) ← readEscape ctx c s
    return (ctx, f.push shape p, none, s)

/-- The pattern read to its end: all groups asked for exist, and its form allows to search for it.
-/
def finish (ctx : Context) (f : Frame) : Except Error Pattern :=
  match ctx.asked.find? (ctx.groups ≤ ·.1) with
  | some (index, start) => fail (.invalidReference index) start
  | none =>
    let p := f.body
    match p.faultOfForm (ctx.flags.contains .template) with
    | some fault => .error (.malformed fault none)
    | none => .ok (if ctx.flags.isEmpty then p else .within ctx.flags [] p)

/-- Two alphabets have been chosen for the whole pattern. -/
def Context.isExclusive (ctx : Context) : Bool :=
  ctx.flags.contains .ascii && ctx.flags.contains .unicode

/-- The rest of a pattern inside the group `f` and the groups around it, in at most `n` symbols. -/
def readUpTo : Nat → Context → Frame → List Frame → Source → Except Error Pattern
  | 0, _, f, _, _ => fail .unterminatedGroup f.start
  | n + 1, ctx, f, outer, s =>
    match s.symbols, outer with
    | [], [] => if ctx.isExclusive then .error .exclusiveFlags else finish ctx f
    | [], _ :: _ => fail .unterminatedGroup f.start
    | a :: _, _ =>
      if a.text == ['|'] then do
        readUpTo n ctx (← f.nextBranch a.place) outer (← s.next)
      else if a.text == [')'] then
        match outer with
        | [] => if ctx.isExclusive then .error .exclusiveFlags else fail .unbalanced a.place
        | g :: outer => do
          let s ← s.next
          let (p, ctx) := closeGroup ctx f
          readUpTo n ctx (g.push .atom p) outer s
      else do
        let s ← s.next
        if f.verbose && isVerboseBlank a.text then readUpTo n ctx f outer s
        else if f.verbose && a.text == ['#'] then
          match ← s.skipThrough? ['\n'] with
          | some s => readUpTo n ctx f outer s
          | none => readUpTo n ctx f outer { s with symbols := [] }
        else
          let fresh := outer.isEmpty && f.branches.isEmpty
          match ← readItem ctx f fresh a.text a.place s with
          | (ctx, f, none, s) => readUpTo n ctx f outer s
          | (ctx, f, some inner, s) => readUpTo n ctx inner (f :: outer) s

/-- The pattern that a text stands for, or its first fault. -/
def parse (t : List Char) : Except Error Pattern := do
  let s ← Source.ofText t
  readUpTo (s.symbols.length + 1) {} { kind := .plain, start := 0, verbose := false } [] s

end QueryTutor.Pattern
