import PipedShell.Text

/-!
# Surrogate pairs

Where a unit has sixteen bits, a character beyond the first 65536 is written as a pair of two units
from ranges that no character has.  Half of a pair alone stands for no character, so a list of code
points that holds one is no text.

* `isSurrogate` finds such halves, `joinSurrogates` is the code point of a pair.
* `joinPairs` puts the pairs of a list of units together.
-/

namespace PipedShell

/-- The first half of a surrogate pair. -/
def isHighSurrogate (n : Nat) : Bool := 0xd800 ≤ n && n ≤ 0xdbff

/-- The second half of a surrogate pair. -/
def isLowSurrogate (n : Nat) : Bool := 0xdc00 ≤ n && n ≤ 0xdfff

/-- Half of a surrogate pair. -/
def isSurrogate (n : Nat) : Bool := isHighSurrogate n || isLowSurrogate n

/-- The code point that a pair stands for. -/
def joinSurrogates (high low : Nat) : Nat := 0x10000 + 1024 * (high - 0xd800) + (low - 0xdc00)

/-- The code points of units of sixteen bits; a half without its other half stays.  `done` is the
code points before them, reversed. -/
def joinPairs (done : List Nat) : List Nat → List Nat
  | [] => done.reverse
  | [unit] => (unit :: done).reverse
  | unit :: next :: rest =>
    if isHighSurrogate unit && isLowSurrogate next then
      joinPairs (joinSurrogates unit next :: done) rest
    else joinPairs (unit :: done) (next :: rest)

end PipedShell
