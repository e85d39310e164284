import SchemaLoom.Shell.Token

/-!
# Reading scripts

A script is read a line at a time, since the commands of one line run before the
next is read. A here-document is read when the line that asks for it ends, and
is known by its place among the documents of the script.

The grammar is that of the POSIX shell command language, down to the places
where a reserved word is one. Every reader takes the number of steps that it may
take at most; `Cursor.steps` is enough for all that is left.
-/

namespace SchemaLoom.Shell
namespace Reading

/-- How far a list of commands goes: to the end of the line, or to a token that
ends it. A block must hold a command, and a script may hold none. -/
inductive Extent where
  | line
  | block
  | script
  deriving DecidableEq, Repr

mutual

/-- Reads the next token. The readers of other tokens than words never get here,
so that a word that ends a here-document can be read by other rules. -/
def token (within : Within) : Nat → Reading Token
  | 0 => stuck
  | n + 1 => do
    let cursor ← get
    if let some token := cursor.returned then
      set { cursor with returned := none }
      return token
    match ← peek with
    | none => return .endOfText
    | some c =>
      match c with
      | ' ' | '\t' =>
        takeBlank
        token within n
      | '#' =>
        modify fun cursor => { cursor with rest := cursor.rest.dropWhile (· ≠ '\n') }
        token within n
      | '\n' =>
        let _ ← takeRaw
        documents n
        return .newline
      | '&' =>
        let _ ← takeRaw
        return if ← takeIf '&' then .doubleAmpersand else .ampersand
      | '|' =>
        let _ ← takeRaw
        return if ← takeIf '|' then .doubleBar else .bar
      | ';' =>
        let _ ← takeRaw
        return if ← takeIf ';' then .doubleSemicolon else .semicolon
      | '(' =>
        let _ ← takeRaw
        return .openParen
      | ')' =>
        let _ ← takeRaw
        return .closeParen
      | _ =>
        let word ← parts within n []
        let number : Option (Option Nat) :=
          match word with
          | [] => some none
          | [.char d false] => if d.isDigit then some (some (d.toNat - '0'.toNat)) else none
          | _ => none
        match ← peek, number with
        | some '<', some number =>
          let _ ← takeRaw
          if ← takeIf '<' then
            return .arrow (number.getD 0) (.document (← takeIf '-'))
          else if ← takeIf '&' then return .arrow (number.getD 0) .copy
          else if ← takeIf '>' then return .arrow (number.getD 0) (.file .readWrite)
          else return .arrow (number.getD 0) (.file .read)
        | some '>', some number =>
          let _ ← takeRaw
          if ← takeIf '>' then return .arrow (number.getD 1) (.file .append)
          else if ← takeIf '|' then return .arrow (number.getD 1) (.file .overwrite)
          else if ← takeIf '&' then return .arrow (number.getD 1) .copy
          else return .arrow (number.getD 1) (.file .write)
        | _, _ => return .word word
termination_by structural n => n

def documents : Nat → Reading Unit
  | 0 => stuck
  | n + 1 => do
    let cursor ← get
    match cursor.awaited with
    | [] => return
    | awaited :: rest =>
      set { cursor with awaited := rest }
      let word ←
        if awaited.expands then
          modify fun cursor => { cursor with ending := some awaited }
          beginLine
          let word ← parts .document n []
          modify fun cursor => { cursor with rest := cursor.behind, ending := none, behind := [] }
          pure word
        else
          let text ← documentLines awaited n []
          pure (text.map fun c => Part.char c true)
      modify fun cursor => { cursor with documents := cursor.documents.set awaited.place word }
      documents n
termination_by structural n => n

/-- Reads the parts of a word up to where it ends, behind parts read before,
which are kept backwards. -/
def parts (within : Within) : Nat → List (Part Command) → Reading (Word Command)
  | 0, _ => stuck
  | n + 1, before => do
    let quoted := within.isQuoted
    match ← peek with
    | none =>
      match within.atEnd with
      | some fault => throw ("Syntax error: " ++ fault)
      | none => return before.reverse
    | some c =>
      if (within = .word || within = .delimiter) && endsWord c then return before.reverse
      let _ ← takeRaw
      if c = '\n' then beginLine
      if c = '\\' then
        match ← takeRaw with
        | none => parts within n (.char '\\' true :: before)
        | some d =>
          if within.escapes d then parts within n (.char d true :: before)
          else parts within n (.char d true :: .char '\\' true :: before)
      else if c = '\x27' && !quoted then
        let inner ← singleQuoted n []
        parts within n (.quotation :: (inner.reverse ++ .quotation :: before))
      else if c = '\x22' then
        match within with
        | .doubleQuotes => return before.reverse
        | .braces true quotedBrace =>
          parts (.braces true !quotedBrace) n (.quotation :: before)
        | .document | .arithmetic _ => parts within n (.char c true :: before)
        | _ =>
          let inner ← parts .doubleQuotes n []
          parts within n (.quotation :: (inner.reverse ++ .quotation :: before))
      else if c = '\x60' && within ≠ .delimiter then
        let script ← oldSubstitution quoted n
        parts within n (.substitution script quoted :: before)
      else if c = '$' && within ≠ .delimiter then
        let part ← dollar quoted n
        parts within n (part :: before)
      else
        match within, c with
        | .braces _ false, '\x7d' => return before.reverse
        | .arithmetic depth, '(' => parts (.arithmetic (depth + 1)) n (.char c true :: before)
        | .arithmetic (depth + 1), ')' => parts (.arithmetic depth) n (.char c true :: before)
        | .arithmetic 0, ')' =>
          if ← takeIf ')' then return before.reverse
          else parts within n (.char c true :: before)
        | _, _ => parts within n (.char c quoted :: before)
termination_by structural n => n

def dollar (quoted : Bool) : Nat → Reading (Part Command)
  | 0 => stuck
  | n + 1 => do
    match ← peek with
    | some '(' =>
      let _ ← takeRaw
      if ← takeIf '(' then return .arithmetic (← parts (.arithmetic 0) n []) quoted
      else return .substitution (← substitution n) quoted
    | some '\x7b' =>
      let _ ← takeRaw
      braced quoted n
    | some c =>
      if startsName c then
        return .parameter (← takeWhile isNameChar n []) .value [] quoted
      else if isSpecial c then
        let _ ← takeRaw
        return .parameter [c] .value [] quoted
      else return .char '$' quoted
    | none => return .char '$' quoted
termination_by structural n => n

def braced (quoted : Bool) : Nat → Reading (Part Command)
  | 0 => stuck
  | n + 1 => do
    let name (c : Char) : Reading (List Char) :=
      if c.isDigit then takeWhile Char.isDigit n [] else takeWhile isNameChar n []
    let bad : Reading (Part Command) := do
      let word ← parts (.braces quoted false) n []
      return .parameter [] .unknown word quoted
    match ← peek with
    | none => bad
    | some c =>
      if isNameChar c then used quoted (← name c) n
      else if c = '#' then
        let _ ← takeRaw
        match ← peek with
        | none => bad
        | some d =>
          if isNameChar d then
            let name ← name d
            if ← takeIf '\x7d' then return .parameter name .length [] quoted else bad
          else if d ≠ '\x7d' then
            let before ← get
            let _ ← takeRaw
            if ← takeIf '\x7d' then
              return if isSpecial d then .parameter [d] .length [] quoted
                else .parameter [] .unknown [] quoted
            else
              set before
              used quoted ['#'] n
          else used quoted ['#'] n
      else if isSpecial c then
        let _ ← takeRaw
        used quoted [c] n
      else
        if c ≠ '\x7d' then
          let _ ← takeRaw
        bad
termination_by structural n => n

/-- Reads what is made of the parameter with a name. -/
def used (quoted : Bool) (name : List Char) : Nat → Reading (Part Command)
  | 0 => stuck
  | n + 1 => do
    if ← takeIf '\x7d' then return .parameter name .value [] quoted
    let emptyIsNone ← takeIf ':'
    match ← peek with
    | none => return .parameter name .unknown (← parts (.braces quoted false) n []) quoted
    | some c =>
      match useOf c emptyIsNone with
      | some use =>
        let _ ← takeRaw
        return .parameter name use (← parts (.braces quoted false) n []) quoted
      | none =>
        if (c = '#' || c = '%') && !emptyIsNone then
          let _ ← takeRaw
          let longest ← takeIf c
          let use := if c = '#' then Use.cutStart longest else Use.cutEnd longest
          return .parameter name use (← parts (.braces false false) n []) quoted
        else
          let _ ← takeRaw
          return .parameter name .unknown (← parts (.braces quoted false) n []) quoted
termination_by structural n => n

/-- Reads a script up to the parenthesis that closes it. -/
def substitution : Nat → Reading Command
  | 0 => stuck
  | n + 1 => do
    let outer ← get
    modify fun cursor => { cursor with awaited := [], ending := none }
    let script ← list .script n .nothing true
    match ← token .word n with
    | .closeParen =>
      modify fun cursor => { cursor with awaited := outer.awaited, ending := outer.ending }
      return script
    | other => unexpected other true "\")\""
termination_by structural n => n

def oldSubstitution (quoted : Bool) : Nat → Reading Command
  | 0 => stuck
  | n + 1 => do
    let text ← backquoted quoted n []
    let after ← get
    set { after.inside text 1 with awaited := [] }
    let script ← list .script n .nothing true
    modify fun read => { after with documents := read.documents }
    return script
termination_by structural n => n

def list (extent : Extent) : Nat → Command → Bool → Reading Command
  | 0, _, _ => stuck
  | n + 1, before, mayEnd => do
    let first ← opening (extent ≠ .line) n
    match first with
    | .newline => return before
    | .endOfText =>
      giveBack first
      return before
    | _ =>
      giveBack first
      if extent ≠ .line && mayEnd && first.endsList then return before
      let command ← andOr n
      let next ← token .word n
      let command := if next matches .ampersand then Command.background command else command
      let commands := before.followedBy command
      match next with
      | .newline | .endOfText =>
        giveBack next
        list extent n commands true
      | .ampersand | .semicolon => list extent n commands true
      | _ =>
        if extent = .line then unexpected next true ""
        giveBack next
        return commands
termination_by structural n => n

def tokenInLines : Nat → Reading Token
  | 0 => stuck
  | n + 1 => do
    match ← token .word n with
    | .newline => tokenInLines n
    | other => return other
termination_by structural n => n

/-- Reads the next token where a command may begin, perhaps behind line ends. An
alias gives way to what it stands for, unless it is a keyword. -/
def opening (behindLines : Bool) : Nat → Reading Token
  | 0 => stuck
  | n + 1 => do
    let first ← if behindLines then tokenInLines n else token .word n
    let isKeyword := first.keyword?.isSome
    if ← replaceAliasIf (!isKeyword) first then opening behindLines n else return first
termination_by structural n => n

def andOr : Nat → Reading Command
  | 0 => stuck
  | n + 1 => do
    let first ← pipeline n
    andOrRest n first
termination_by structural n => n

def andOrRest : Nat → Command → Reading Command
  | 0, _ => stuck
  | n + 1, before => do
    match ← token .word n with
    | .doubleAmpersand =>
      giveBack (← tokenInLines n)
      andOrRest n (.both before (← pipeline n))
    | .doubleBar =>
      giveBack (← tokenInLines n)
      andOrRest n (.either before (← pipeline n))
    | other =>
      giveBack other
      return before
termination_by structural n => n

def pipeline : Nat → Reading Command
  | 0 => stuck
  | n + 1 => do
    let first ← opening false n
    let inverted := first.keyword? = some "!"
    if !inverted then giveBack first
    let command ← command n
    let commands ← pipelineRest n [command]
    let whole :=
      match commands with
      | [command] => command
      | commands => .pipeline commands
    return if inverted then .invert whole else whole
termination_by structural n => n

/-- Reads the commands of a pipeline behind those read before, which are kept
backwards. -/
def pipelineRest : Nat → List Command → Reading (List Command)
  | 0, _ => stuck
  | n + 1, before => do
    match ← token .word n with
    | .bar =>
      giveBack (← tokenInLines n)
      pipelineRest n ((← command n) :: before)
    | other =>
      giveBack other
      return before.reverse
termination_by structural n => n

/-- Reads the commands up to a keyword, which must come next. -/
def blockUpTo (keyword : String) : Nat → Reading Command
  | 0 => stuck
  | n + 1 => do
    let body ← list .block n .nothing false
    let next ← token .word n
    if next.keyword? = some keyword then return body
    else unexpected next true ("\"" ++ keyword ++ "\"")
termination_by structural n => n

def command : Nat → Reading Command
  | 0 => stuck
  | n + 1 => do
    let first ← opening false n
    let line := (← get).line
    match first with
    | .openParen =>
      let body ← list .block n .nothing false
      match ← token .word n with
      | .closeParen => return .subshell line body (← redirections n [])
      | other => unexpected other true "\")\""
    | .arrow _ _ =>
      giveBack first
      simple line [] [] [] n
    | .word _ =>
      match first.keyword? with
      | none =>
        giveBack first
        simple line [] [] [] n
      | some keyword =>
        let compound : Option Command ←
          match keyword with
          | "\x7b" => some <$> blockUpTo "\x7d" n
          | "if" => some <$> conditional n
          | "while" => some <$> loop true n
          | "until" => some <$> loop false n
          | "for" => some <$> forEach n
          | "case" => some <$> choice n
          | _ => pure none
        match compound with
        | none => unexpected first true ""
        | some body =>
          match ← redirections n [], keyword, body with
          | [], _, _ => return body
          -- braces around a subshell alone are as if they were not there,
          -- and their redirections count
          | redirections, "\x7b", .subshell line body _ => return .subshell line body redirections
          | redirections, _, _ => return .redirected line body redirections
    | _ => unexpected first true ""
termination_by structural n => n

def conditional : Nat → Reading Command
  | 0 => stuck
  | n + 1 => do
    let test ← blockUpTo "then" n
    let yes ← list .block n .nothing false
    let next ← token .word n
    match next.keyword? with
    | some "elif" => return .conditional test yes (← conditional n)
    | some "else" => return .conditional test yes (← blockUpTo "fi" n)
    | some "fi" => return .conditional test yes .nothing
    | _ => unexpected next true "\"fi\""
termination_by structural n => n

/-- Reads a loop with a test from behind its first keyword. -/
def loop (onSuccess : Bool) : Nat → Reading Command
  | 0 => stuck
  | n + 1 => do
    let test ← blockUpTo "do" n
    return .loop onSuccess test (← blockUpTo "done" n)
termination_by structural n => n

/-- Reads a loop over words from behind its first keyword. -/
def forEach : Nat → Reading Command
  | 0 => stuck
  | n + 1 => do
    let line := (← get).line
    let name :=
      match ← token .word n with
      | .word word => (plainText? word).filter isName
      | _ => none
    match name with
    | none => throw "Syntax error: Bad for loop variable"
    | some name =>
      let next ← tokenInLines n
      let words ←
        if next.keyword? = some "in" then forWords n []
        else do
          match next with
          | .semicolon => pure ()
          | _ => giveBack next
          pure [[Part.quotation, .parameter ['@'] .value [] true, .quotation]]
      let next ← opening true n
      if next.keyword? = some "do" then
        return .forEach line name words (← blockUpTo "done" n)
      else unexpected next true "\"do\""
termination_by structural n => n

/-- Reads words up to the end of the line or a semicolon, behind words read
before, which are kept backwards. -/
def forWords : Nat → List (Word Command) → Reading (List (Word Command))
  | 0, _ => stuck
  | n + 1, before => do
    let next ← token .word n
    let mayBeAlias ← followsBlank
    if ← replaceAliasIf mayBeAlias next then forWords n before
    else
      match next with
      | .word word => forWords n (word :: before)
      | .newline | .semicolon => return before.reverse
      | other => unexpected other false ""
termination_by structural n => n

def choice : Nat → Reading Command
  | 0 => stuck
  | n + 1 => do
    let line := (← get).line
    match ← token .word n with
    | .word subject =>
      let next ← tokenInLines n
      if next.keyword? = some "in" then return .choice line subject (← cases n [])
      else unexpected next true "\"in\""
    | other => unexpected other false "word"
termination_by structural n => n

/-- Reads the cases of a choice behind cases read before, which are kept backwards. -/
def cases : Nat → List (List (Word Command) × Command) →
    Reading (List (List (Word Command) × Command))
  | 0, _ => stuck
  | n + 1, before => do
    let first ← tokenInLines n
    if first.keyword? = some "esac" then return before.reverse
    let first ← if first matches .openParen then token .word n else pure first
    let patterns ← casePatterns n first []
    let body ← list .script n .nothing true
    let next ← tokenInLines n
    if next.keyword? = some "esac" then return ((patterns, body) :: before).reverse
    match next with
    | .doubleSemicolon => cases n ((patterns, body) :: before)
    | other => unexpected other true "\";;\""
termination_by structural n => n

/-- Reads the patterns of a case and the parenthesis behind them. The first
token is read already, and patterns before it are kept backwards. A token that
is no word is a pattern without anything in it. -/
def casePatterns : Nat → Token → List (Word Command) → Reading (List (Word Command))
  | 0, _, _ => stuck
  | n + 1, first, before => do
    let word : Word Command :=
      match first with
      | .word word => word
      | _ => []
    match ← token .word n with
    | .bar => casePatterns n (← token .word n) (word :: before)
    | .closeParen => return (word :: before).reverse
    | other => unexpected other false "\")\""
termination_by structural n => n

def redirection (descriptor : Nat) (arrow : Arrow) : Nat → Reading (Redirection Command)
  | 0 => stuck
  | n + 1 => do
    let within := if arrow matches .document _ then Within.delimiter else .word
    match ← token within n, arrow with
    | .word word, .file opening => return ⟨descriptor, .file opening word⟩
    | .word word, .copy => return ⟨descriptor, .copy word⟩
    | .word word, .document dropsTabs =>
      let cursor ← get
      let (delimiter, quoted) := delimiterOf word
      let place := cursor.documents.length
      let awaited : Awaited := ⟨place, delimiter, !quoted, dropsTabs⟩
      set { cursor with
        documents := cursor.documents ++ [[]]
        awaited := cursor.awaited ++ [awaited] }
      return ⟨descriptor, .document place⟩
    | other, _ => unexpected other false ""
termination_by structural n => n

/-- Reads redirections as long as there are any, behind redirections read
before, which are kept backwards. -/
def redirections : Nat → List (Redirection Command) → Reading (List (Redirection Command))
  | 0, _ => stuck
  | n + 1, before => do
    match ← token .word n with
    | .arrow descriptor arrow => redirections n ((← redirection descriptor arrow n) :: before)
    | other =>
      giveBack other
      return before.reverse
termination_by structural n => n

/-- Reads a command that begins with a word or a redirection, behind
assignments, words and redirections read before, which are kept backwards. -/
def simple (line : Nat) (assigned : List (List Char × Word Command)) (words : List (Word Command))
    (redirected : List (Redirection Command)) : Nat → Reading Command
  | 0 => stuck
  | n + 1 => do
    let next ← token .word n
    let mayBeAlias := (← followsBlank) || words.isEmpty
    if ← replaceAliasIf mayBeAlias next then return (← simple line assigned words redirected n)
    match next with
    | .word word =>
      match words, assignment? word with
      | [], some assignment => simple line (assignment :: assigned) [] redirected n
      | words, _ => simple line assigned (word :: words) redirected n
    | .arrow descriptor arrow =>
      let next ← redirection descriptor arrow n
      simple line assigned words (next :: redirected) n
    | .openParen =>
      match assigned, words, redirected with
      | [], [word], [] =>
        match ← token .word n with
        | .closeParen =>
          let name := (plainText? word).filter fun name =>
            isName name && !specialBuiltins.contains (String.ofList name)
          match name with
          | none => throw "Syntax error: Bad function name"
          | some name =>
            giveBack (← tokenInLines n)
            return .define name (← command n)
        | other => unexpected other false "\")\""
      | _, _, _ =>
        giveBack .openParen
        return .simple line assigned.reverse words.reverse redirected.reverse
    | other =>
      giveBack other
      return .simple line assigned.reverse words.reverse redirected.reverse
termination_by structural n => n

end

end Reading

/-- Reads the commands of the next line, or says what is wrong there; nothing is
left behind the last line. The line of a fault is that of the cursor. -/
def Cursor.nextLine (cursor : Cursor) : Except String Command × Cursor :=
  Reading.list .line cursor.steps .nothing false |>.run |>.run cursor |> fun (result, after) =>
    (result, { after with returned := none, isEnded := after.returned matches some .endOfText })

end SchemaLoom.Shell
