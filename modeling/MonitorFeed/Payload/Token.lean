import MonitorFeed.Payload.Context

/-!
Tokens of deliveries: identifiers of random form, version 4. A run draws its tokens from one seed, and
the number of the draw in the last group keeps them apart.
-/

namespace MonitorFeed.Token

/-- The last digits of a number in base 16, so many of them. -/
def hexDigits : Nat → Nat → List Char
  | 0, _ => []
  | width + 1, n => hexDigits width (n / 16) ++ [Nat.digitChar (n % 16)]

/-- The token of a draw. -/
def ofDraw (seed draw : Nat) : String :=
  String.ofList (List.intercalate ['-']
    [hexDigits 8 seed, hexDigits 4 (seed >>> 32), '4' :: hexDigits 3 (seed >>> 48),
      Nat.digitChar (8 + seed >>> 60 % 4) :: hexDigits 3 (seed >>> 62), hexDigits 12 draw])

end MonitorFeed.Token

namespace MonitorFeed.Draw

/-- The draws of a run that takes place at one time. -/
def numbered (seed : Nat) (time : Timestamp) (draw : Nat) : Draw :=
  ⟨Token.ofDraw seed draw, time⟩

end MonitorFeed.Draw
