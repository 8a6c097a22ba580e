import ClusterHarness.Settings

/-!
# Random names

Names are made unique by characters of `[a-z0-9]`.  A source of numbers is turned into such
characters by folding the upper case of `[A-Za-z0-9]` down, so letters are twice as likely as
digits.
-/

namespace ClusterHarness

namespace Token

def alphabet : List Char := "ABCDEFGHIJKLMNOPQRSTUVWXYZabcdefghijklmnopqrstuvwxyz0123456789".toList

def char (n : Nat) : Char := ((alphabet[n % 62]?).getD 'a').toLower

def make (source : Nat → Nat) (length : Nat) : String :=
  String.ofList ((List.range length).map fun i => char (source i))

end Token

end ClusterHarness
