import ReferencePage.Text.Basic

/-! How alike two words are: characters match when they are equal and stand near each other, and
matches that stand in another order count for less. -/
namespace ReferencePage.Text

def reach (s t : Text) : Nat := max s.length t.length / 2 - 1

def partner? (s t : Text) (taken : List Nat) (place : Nat) (c : Char) : Option Nat :=
  (List.range t.length).find? fun j =>
    place - reach s t ≤ j && j < place + reach s t + 1 && t[j]? = some c && !taken.contains j

def pairFrom (s t : Text) (taken : List Nat) : Nat → Text → List (Char × Nat)
  | _, [] => []
  | place, c :: rest =>
    match partner? s t taken place c with
    | some j => (c, j) :: pairFrom s t (j :: taken) (place + 1) rest
    | none => pairFrom s t taken (place + 1) rest

def pairs (s t : Text) : List (Char × Nat) := pairFrom s t [] 0 s

/- Matches whose partners, taken in order, are other characters; two make one exchange. -/
def exchanges (s t : Text) : Nat :=
  let found := pairs s t
  let partners := (List.range t.length).filter fun j => found.any fun p => p.2 = j
  ((found.zip partners).countP fun (p, j) => t[j]? ≠ some p.1) / 2

/-- The mean of three shares, as a quotient: of `s` that matches, of `t` that matches, and of the
matches that are in order. -/
def similarity (s t : Text) : Nat × Nat :=
  if s = [] && t = [] then (1, 1)
  else
    let n := (pairs s t).length
    if n = 0 then (0, 1)
    else
      (n * t.length * n + n * s.length * n + (n - exchanges s t) * s.length * t.length,
        3 * s.length * t.length * n)

def isSimilar (s t : Text) : Bool := 7 * (similarity s t).2 < 10 * (similarity s t).1

end ReferencePage.Text
