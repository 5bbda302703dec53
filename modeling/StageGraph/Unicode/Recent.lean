import StageGraph.Unicode.Binary

/-! Code points of the latest edition.

The other tables hold the code points that patterns tell apart. The next edition assigns more and changes
none of those in what is asked here: whether text shows a code point, and whether a name may hold it. -/
namespace StageGraph.Unicode

/-- The runs of recent code points by general category. -/
def recentRuns : List String :=
  ["0:Cn 88f:Lo 890:Cn c5c:Lo c5d:Cn cdc:Lo cdd:Cn 1acf:Mn 1ade:Cn 1ae0:Mn 1aec:Cn 20c1:Sc 20c2:Cn",
   "2b96:So 2b97:Cn a7ce:Lu a7cf:Ll a7d0:Cn a7d2:Lu a7d3:Cn a7d4:Lu a7d5:Cn a7f1:Lm a7f2:Cn fbc3:So",
   "fbd3:Cn fd90:So fd92:Cn fdc8:So fdcf:Cn 10940:Lo 1095a:Cn 10ec5:Lm 10ec6:Lo 10ec8:Cn 10ed0:Po",
   "10ed1:So 10ed9:Cn 10efa:Mn 10efc:Cn 11b60:Mn 11b61:Mc 11b62:Mn 11b65:Mc 11b66:Mn 11b67:Mc",
   "11b68:Cn 11db0:Lo 11dd9:Lm 11dda:Lo 11ddc:Cn 11de0:Nd 11dea:Cn 16ea0:Lu 16eb9:Cn 16ebb:Ll",
   "16ed4:Cn 16ff2:Lm 16ff4:Nl 16ff7:Cn 187f8:Lo 18800:Cn 18d09:Lo 18d1f:Cn 18d80:Lo 18df3:Cn",
   "1ccfa:So 1ccfd:Cn 1ceba:So 1ced1:Cn 1cee0:So 1cef0:Sm 1cef1:Cn 1e6c0:Lo 1e6df:Cn 1e6e0:Lo",
   "1e6e3:Mn 1e6e4:Lo 1e6e6:Mn 1e6e7:Lo 1e6ee:Mn 1e6f0:Lo 1e6f5:Mn 1e6f6:Cn 1e6fe:Lo 1e6ff:Lm",
   "1e700:Cn 1f6d8:So 1f6d9:Cn 1f777:So 1f77b:Cn 1f8d0:Sm 1f8d9:Cn 1fa54:So 1fa58:Cn 1fa8a:So",
   "1fa8b:Cn 1fa8e:So 1fa8f:Cn 1fac8:So 1fac9:Cn 1facd:So 1face:Cn 1faea:So 1faeb:Cn 1faef:So",
   "1faf0:Cn 1fbfa:So 1fbfb:Cn 2b73a:Lo 2b740:Cn 2cea2:Lo 2ceae:Cn 323b0:Lo 3347a:Cn"]

/-- Recent marks that are alphabetic. -/
def recentAlphabeticMarks : List String :=
  ["10efa-10efb 11b60-11b67 1e6e3 1e6e6 1e6ee-1e6ef 1e6f5"]

/-- The recent code points of the given categories. -/
def recent (names : List String) : Ranges := rangesOf (readRuns recentRuns) names

/-- What a name may start with, beside the low line. -/
def nameStart : Ranges :=
  alphabetic ++ recent ["Lu", "Ll", "Lt", "Lm", "Lo", "Nl"] ++ readRanges recentAlphabeticMarks

/-- Numbers, with which a name may go on. -/
def nameNumber : Ranges := numeric ++ recent ["Nd", "Nl", "No"]

/-- Code points that are written by number where text is quoted: marks that extend the character before them,
those that show nothing by default, unassigned, private, control and format ones, and separators other than
the blank. The two voicing marks of half width stand for themselves. -/
def escaped : Ranges :=
  graphemeExtend.minus [(0xFF9E, 0xFF9F)]
    ++ readRanges defaultIgnorableCodePointText
    ++ (categoryRanges ["Cc", "Cf", "Cs", "Co", "Zl", "Zp", "Zs"]).filter (· != (32, 32))
    ++ recent ["Mn", "Me"]
    ++ (categoryRanges ["Cn"]).minus
      (recent ["Lu", "Ll", "Lt", "Lm", "Lo", "Mc", "Nd", "Nl", "No", "Sm", "Sc", "Sk", "So", "Po"])

end StageGraph.Unicode
