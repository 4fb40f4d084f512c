import Arrears.Basic

/-!
# URLs

Control characters and spaces at both ends and all tabs and line ends are ignored.  A URL begins
with a scheme up to a colon.  If two slashes follow, an authority stands up to the next `/`, `?` or
`#`: perhaps credentials in front of an at sign, a host, and perhaps a colon and a socket number.
Behind credentials, and in front of a colon, the host must not be empty.
-/

namespace Arrears

/-! ## Addresses of hosts

An address is a row of eight groups of one to four hexadecimal digits with colons between them.  Two
colons stand once for any number of groups that are zero, and the last two groups may be given by
four decimal numbers of one byte with points between them.
-/

namespace Url

/-- Whether digits are a number of one byte, without superfluous zeros. -/
def isByte (digits : List Char) : Bool :=
  !digits.isEmpty && digits.all Char.isDigit && Text.valueOfDigits digits < 256 &&
    (digits.length = 1 || digits.head? ≠ some '0')

def isDotted (cs : List Char) : Bool :=
  let numbers := Text.stretches (fun c => c = '.') cs
  numbers.length = 4 && numbers.all isByte

/-- Whether a text goes on with the further groups of an address, of which `groups` have been read;
`gap` says whether two colons have stood for any number of them. -/
def hasGroups : Nat → Nat → Bool → List Char → Bool
  | 0, _, _, _ => false
  | _, groups, gap, [] => gap || groups = 8
  | fuel + 1, groups, gap, cs =>
    let digits := (cs.take 4).takeWhile fun c => (Text.hexDigit? c).isSome
    groups ≠ 8 &&
      match cs, cs.drop digits.length with
      | ':' :: rest, _ => !gap && hasGroups fuel (groups + 1) true rest
      | _, [] => hasGroups fuel (groups + 1) gap []
      | _, '.' :: _ => !digits.isEmpty && groups ≤ 6 && isDotted cs && (gap || groups = 6)
      | _, ':' :: rest => !rest.isEmpty && hasGroups fuel (groups + 1) gap rest
      | _, _ => false

def isAddress (cs : List Char) : Bool :=
  match cs with
  | ':' :: ':' :: rest => hasGroups (rest.length + 2) 1 true rest
  | ':' :: _ => false
  | _ => 2 ≤ cs.length && hasGroups (cs.length + 2) 0 false cs

end Url

/-! ## Schemes and authorities -/

namespace Url

def isIgnored (c : Char) : Bool :=
  c = '\t' || c = '\n' || c = '\r'

def isPadding (c : Char) : Bool :=
  c.toNat ≤ 32

def essential (cs : List Char) : List Char :=
  let padded := cs.dropWhile isPadding
  ((padded.reverse.dropWhile isPadding).reverse).filter fun c => !isIgnored c

def isSchemeChar (c : Char) : Bool :=
  c.isAlphanum || c = '+' || c = '-' || c = '.'

def splitScheme (cs : List Char) : Option (List Char × List Char) :=
  let scheme := cs.takeWhile isSchemeChar
  match scheme, cs.dropWhile isSchemeChar with
  | first :: _, ':' :: rest => if first.isAlpha then some (scheme, rest) else none
  | _, _ => none

def endsAuthority (c : Char) : Bool :=
  c = '/' || c = '?' || c = '#'

def isForbiddenInHost (c : Char) : Bool :=
  c = '\x00' || c = ' ' || c = '<' || c = '>' || c = '@' || c = '[' || c = '\\' || c = ']' ||
    c = '^' || c = '|'

def isSocketNumber (cs : List Char) : Bool :=
  cs.all Char.isDigit && Text.valueOfDigits cs < 65536

/-- The host in front of the first colon outside of brackets, and what follows it; `inside` says
whether a bracket is open. -/
def splitHost (inside : Bool) : List Char → List Char × List Char
  | [] => ([], [])
  | c :: cs =>
    if c = ':' && !inside then ([], c :: cs)
    else
      let (host, rest) := splitHost (if inside then c ≠ ']' else c = '[') cs
      (c :: host, rest)

def isHost (host : List Char) : Bool :=
  match host with
  | '[' :: rest => rest.getLast? = some ']' && isAddress rest.dropLast
  | _ => !host.any isForbiddenInHost

/-- Whether a text is a host, perhaps with a socket number; `required` says whether the host must
not be empty. -/
def isHostWithSocket (required : Bool) (cs : List Char) : Bool :=
  let (host, behindHost) := splitHost false cs
  isHost host &&
    (!host.isEmpty || (!required && behindHost.isEmpty)) &&
    isSocketNumber ((behindHost.drop 1).takeWhile fun c => c ≠ '\\')

/-- The credentials in front of the last at sign, if there is one, and what follows it. -/
def splitCredentials (cs : List Char) : Option (List Char) × List Char :=
  if cs.contains '@' then
    let reversed := cs.reverse
    (some ((reversed.dropWhile fun c => c ≠ '@').drop 1).reverse,
      (reversed.takeWhile fun c => c ≠ '@').reverse)
  else
    (none, cs)

/-- Whether a text begins with an authority, or with a path. -/
def hasAuthority (cs : List Char) : Bool :=
  let authority := cs.takeWhile fun c => !endsAuthority c
  let behind := cs.dropWhile fun c => !endsAuthority c
  match splitCredentials authority with
  | (none, host) => isHostWithSocket false host
  | (some [], host) => isHostWithSocket (!behind.isEmpty) host
  | (some credentials, host) => isHostWithSocket (credentials ≠ [':']) host

def scheme? (url : String) : Option String :=
  match splitScheme (essential url.toList) with
  | none => none
  | some (scheme, rest) =>
    let valid := match rest with
      | '/' :: '/' :: rest => hasAuthority rest
      | _ => true
    if valid then some (String.ofList (scheme.map Char.toLower)) else none

end Url

end Arrears
