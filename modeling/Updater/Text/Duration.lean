import Updater.Text.Binary64
/-!
Durations for people.

Below a second a duration is whole milliseconds (`850ms`). From a second on it is seconds with
one decimal (`12.3s`), computed the way binary floating point does it: the milliseconds become
the nearest double, the quotient by a thousand becomes the nearest double, and that exact
binary value is rounded to one decimal with ties to the even digit. So 1250 ms, whose quotient
1.25 is exact, shows `1.2s`, while 1350 ms shows `1.4s` because the double nearest 1.35 lies
above it.
-/

namespace Updater.Text

def formatDuration (ms : Nat) : String :=
  if ms < 1000 then toString ms ++ "ms"
  else
    let tenths := match (Binary64.ofNat ms).div (Binary64.ofNat 1000) with
      | .finite _ m e =>
        let (n, d) := Binary64.magnitude m e
        roundHalfEven (10 * n) d
      | _ => 0
    toString (tenths / 10) ++ "." ++ toString (tenths % 10) ++ "s"

end Updater.Text
