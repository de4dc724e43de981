/-!
# ASCII letter case

Case is ignored for the 26 ASCII letters only; every other character is compared as it is.
-/

namespace I2cTopology
namespace Text

/-- Are the two texts equal when ASCII capitals and small letters are identified? -/
def eqIgnoringCase (a b : String) : Bool :=
  a.toList.map Char.toLower == b.toList.map Char.toLower

end Text
end I2cTopology
