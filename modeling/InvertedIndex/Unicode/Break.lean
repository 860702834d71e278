import InvertedIndex.Unicode.Partition

namespace InvertedIndex.Unicode.Break

/-- Every name in lower case, without blanks, hyphens and underscores, with its class. -/
def namedGrapheme : List (String × String) := [
  ("cn", "CN"), ("control", "CN"), ("cr", "CR"), ("ex", "EX"), ("extend", "EX"), ("l", "L"),
  ("lf", "LF"), ("lv", "LV"), ("lvt", "LVT"), ("pp", "PP"), ("prepend", "PP"), ("ri", "RI"),
  ("regionalindicator", "RI"), ("sm", "SM"), ("spacingmark", "SM"), ("t", "T"), ("v", "V"),
  ("zwj", "ZWJ")]

def namedWord : List (String × String) := [
  ("cr", "CR"), ("dq", "DQ"), ("doublequote", "DQ"), ("ex", "EX"), ("extendnumlet", "EX"),
  ("extend", "Extend"), ("fo", "FO"), ("format", "FO"), ("hl", "HL"), ("hebrewletter", "HL"),
  ("ka", "KA"), ("katakana", "KA"), ("le", "LE"), ("aletter", "LE"), ("lf", "LF"), ("mb", "MB"),
  ("midnumlet", "MB"), ("ml", "ML"), ("midletter", "ML"), ("mn", "MN"), ("midnum", "MN"),
  ("nl", "NL"), ("newline", "NL"), ("nu", "NU"), ("numeric", "NU"), ("ri", "RI"),
  ("regionalindicator", "RI"), ("sq", "SQ"), ("singlequote", "SQ"), ("wsegspace", "WSegSpace"),
  ("zwj", "ZWJ")]

def namedSentence : List (String × String) := [
  ("at", "AT"), ("aterm", "AT"), ("cl", "CL"), ("close", "CL"), ("cr", "CR"), ("ex", "EX"),
  ("extend", "EX"), ("fo", "FO"), ("format", "FO"), ("le", "LE"), ("oletter", "LE"),
  ("lf", "LF"), ("lo", "LO"), ("lower", "LO"), ("nu", "NU"), ("numeric", "NU"), ("sc", "SC"),
  ("scontinue", "SC"), ("se", "SE"), ("sep", "SE"), ("sp", "SP"), ("st", "ST"), ("sterm", "ST"),
  ("up", "UP"), ("upper", "UP")]

/-- The class of all other code points has no name. -/
def grapheme : Partition := .parse
  "a:CN 1:LF 2:CN 1:CR 12:CN 5f:XX 21:CN d:XX 1:CN 252:XX 70:EX 113:XX 7:EX 107:XX 2d:EX 1:XX 1:EX
  1:XX 2:EX 1:XX 2:EX 1:XX 1:EX 38:XX 6:PP a:XX b:EX 1:XX 1:CN 2e:XX 15:EX 10:XX 1:EX 65:XX 7:EX
  1:PP 1:XX 6:EX 2:XX 2:EX 1:XX 4:EX 21:XX 1:PP 1:XX 1:EX 1e:XX 1b:EX 5b:XX b:EX 3a:XX 9:EX 9:XX
  1:EX 18:XX 4:EX 1:XX 9:EX 1:XX 3:EX 1:XX 5:EX 2b:XX 3:EX 34:XX 2:PP 5:XX 9:EX 2a:XX 18:EX 1:PP
  20:EX 1:SM 36:XX 1:EX 1:SM 1:EX 1:XX 3:SM 8:EX 4:SM 1:EX 2:SM 1:XX 7:EX a:XX 2:EX 1d:XX 1:EX
  2:SM 38:XX 1:EX 1:XX 1:EX 2:SM 4:EX 2:XX 2:SM 2:XX 2:SM 1:EX 9:XX 1:EX a:XX 2:EX 1a:XX 1:EX
  2:XX 2:EX 1:SM 38:XX 1:EX 1:XX 3:SM 2:EX 4:XX 2:EX 2:XX 3:EX 3:XX 1:EX 1e:XX 2:EX 3:XX 1:EX
  b:XX 2:EX 1:SM 38:XX 1:EX 1:XX 3:SM 5:EX 1:XX 2:EX 1:SM 1:XX 2:SM 1:EX 14:XX 2:EX 16:XX 6:EX
  1:XX 1:EX 2:SM 38:XX 1:EX 1:XX 2:EX 1:SM 4:EX 2:XX 2:SM 2:XX 2:SM 1:EX 7:XX 3:EX a:XX 2:EX
  1e:XX 1:EX 3b:XX 1:EX 1:SM 1:EX 2:SM 3:XX 3:SM 1:XX 3:SM 1:EX 9:XX 1:EX 28:XX 1:EX 3:SM 1:EX
  37:XX 1:EX 1:XX 3:EX 4:SM 1:XX 3:EX 1:XX 4:EX 7:XX 2:EX b:XX 2:EX 1d:XX 1:EX 2:SM 38:XX 1:EX
  1:XX 1:SM 2:EX 1:SM 1:EX 2:SM 1:XX 3:EX 1:XX 4:EX 7:XX 2:EX b:XX 2:EX f:XX 1:SM c:XX 2:EX 2:SM
  37:XX 2:EX 1:XX 1:EX 2:SM 4:EX 1:XX 3:SM 1:XX 3:SM 1:EX 1:PP 8:XX 1:EX a:XX 2:EX 1d:XX 1:EX
  2:SM 46:XX 1:EX 4:XX 1:EX 2:SM 3:EX 1:XX 1:EX 1:XX 7:SM 1:EX 12:XX 2:SM 3d:XX 1:EX 1:XX 1:SM
  7:EX c:XX 8:EX 62:XX 1:EX 1:XX 1:SM 9:EX b:XX 7:EX 49:XX 2:EX 1b:XX 1:EX 1:XX 1:EX 1:XX 1:EX
  4:XX 2:SM 31:XX e:EX 1:SM 5:EX 1:XX 2:EX 5:XX b:EX 1:XX 24:EX 9:XX 1:EX 66:XX 4:EX 1:SM 6:EX
  1:XX 2:EX 2:SM 2:EX 17:XX 2:SM 2:EX 4:XX 3:EX 10:XX 4:EX d:XX 1:EX 1:XX 1:SM 2:EX 6:XX 1:EX
  f:XX 1:EX 62:XX 60:L 48:V 58:T 15d:XX 3:EX 3b2:XX 4:EX 1c:XX 3:EX 1d:XX 2:EX 1e:XX 2:EX 40:XX
  2:EX 1:SM 7:EX 8:SM 1:EX 2:SM b:EX 9:XX 1:EX 2d:XX 3:EX 1:CN 1:EX 75:XX 2:EX 22:XX 1:EX 76:XX
  3:EX 4:SM 2:EX 3:SM 4:XX 2:SM 1:EX 6:SM 3:EX db:XX 2:EX 2:SM 1:EX 39:XX 1:SM 1:EX 1:SM 7:EX
  1:XX 1:EX 1:XX 1:EX 2:XX 8:EX 6:SM a:EX 2:XX 1:EX 30:XX 1f:EX 31:XX 4:EX 1:SM 2f:XX a:EX 4:SM
  3:EX 26:XX 9:EX c:XX 2:EX 1:SM 1e:XX 1:SM 4:EX 2:SM 6:EX 38:XX 1:EX 1:SM 2:EX 3:SM 1:EX 1:SM
  5:EX 30:XX 8:SM 8:EX 2:SM 2:EX 98:XX 3:EX 1:XX d:EX 1:SM 7:EX 4:XX 1:EX 6:XX 1:EX 2:XX 1:SM
  2:EX c6:XX 40:EX 20b:XX 1:CN 1:EX 1:ZWJ 2:CN 18:XX 7:CN 31:XX 10:CN 60:XX 21:EX bfe:XX 3:EX
  8d:XX 1:EX 60:XX 20:EX 22a:XX 6:EX 69:XX 2:EX 75d4:XX 4:EX 1:XX a:EX 20:XX 2:EX 50:XX 2:EX
  110:XX 1:EX 3:XX 1:EX 4:XX 1:EX 17:XX 2:SM 2:EX 1:SM 4:XX 1:EX 53:XX 2:SM 32:XX 10:SM 2:EX
  1a:XX 12:EX d:XX 1:EX 26:XX 8:EX 19:XX b:EX 1:SM 1:EX c:XX 1d:L 3:XX 3:EX 1:SM 2f:XX 1:EX 2:SM
  4:EX 2:SM 2:EX 2:SM 1:EX 24:XX 1:EX 43:XX 6:EX 2:SM 2:EX 2:SM 2:EX c:XX 1:EX 8:XX 1:EX 1:SM
  2e:XX 1:EX 33:XX 1:EX 1:XX 3:EX 2:XX 2:EX 5:XX 2:EX 1:XX 1:EX 29:XX 1:SM 2:EX 2:SM 5:XX 1:SM
  1:EX ec:XX 2:SM 1:EX 2:SM 1:EX 2:SM 1:XX 1:SM 1:EX 12:XX 1:LV 1b:LVT 1:LV 1b:LVT 1:LV 1b:LVT
  1:LV 1b:LVT 1:LV 1b:LVT 1:LV 1b:LVT 1:LV 1b:LVT 1:LV 1b:LVT 1:LV 1b:LVT 1:LV 1b:LVT 1:LV 1b:LVT
  1:LV 1b:LVT 1:LV 1b:LVT 1:LV 1b:LVT 1:LV 1b:LVT 1:LV 1b:LVT 1:LV 1b:LVT 1:LV 1b:LVT 1:LV 1b:LVT
  1:LV 1b:LVT 1:LV 1b:LVT 1:LV 1b:LVT 1:LV 1b:LVT 1:LV 1b:LVT 1:LV 1b:LVT 1:LV 1b:LVT 1:LV 1b:LVT
  1:LV 1b:LVT 1:LV 1b:LVT 1:LV 1b:LVT 1:LV 1b:LVT 1:LV 1b:LVT 1:LV 1b:LVT 1:LV 1b:LVT 1:LV 1b:LVT
  1:LV 1b:LVT 1:LV 1b:LVT 1:LV 1b:LVT 1:LV 1b:LVT 1:LV 1b:LVT 1:LV 1b:LVT 1:LV 1b:LVT 1:LV 1b:LVT
  1:LV 1b:LVT 1:LV 1b:LVT 1:LV 1b:LVT 1:LV 1b:LVT 1:LV 1b:LVT 1:LV 1b:LVT 1:LV 1b:LVT 1:LV 1b:LVT
  1:LV 1b:LVT 1:LV 1b:LVT 1:LV 1b:LVT 1:LV 1b:LVT 1:LV 1b:LVT 1:LV 1b:LVT 1:LV 1b:LVT 1:LV 1b:LVT
  1:LV 1b:LVT 1:LV 1b:LVT 1:LV 1b:LVT 1:LV 1b:LVT 1:LV 1b:LVT 1:LV 1b:LVT 1:LV 1b:LVT 1:LV 1b:LVT
  1:LV 1b:LVT 1:LV 1b:LVT 1:LV 1b:LVT 1:LV 1b:LVT 1:LV 1b:LVT 1:LV 1b:LVT 1:LV 1b:LVT 1:LV 1b:LVT
  1:LV 1b:LVT 1:LV 1b:LVT 1:LV 1b:LVT 1:LV 1b:LVT 1:LV 1b:LVT 1:LV 1b:LVT 1:LV 1b:LVT 1:LV 1b:LVT
  1:LV 1b:LVT 1:LV 1b:LVT 1:LV 1b:LVT 1:LV 1b:LVT 1:LV 1b:LVT 1:LV 1b:LVT 1:LV 1b:LVT 1:LV 1b:LVT
  1:LV 1b:LVT 1:LV 1b:LVT 1:LV 1b:LVT 1:LV 1b:LVT 1:LV 1b:LVT 1:LV 1b:LVT 1:LV 1b:LVT 1:LV 1b:LVT
  1:LV 1b:LVT 1:LV 1b:LVT 1:LV 1b:LVT 1:LV 1b:LVT 1:LV 1b:LVT 1:LV 1b:LVT 1:LV 1b:LVT 1:LV 1b:LVT
  1:LV 1b:LVT 1:LV 1b:LVT 1:LV 1b:LVT 1:LV 1b:LVT 1:LV 1b:LVT 1:LV 1b:LVT 1:LV 1b:LVT 1:LV 1b:LVT
  1:LV 1b:LVT 1:LV 1b:LVT 1:LV 1b:LVT 1:LV 1b:LVT 1:LV 1b:LVT 1:LV 1b:LVT 1:LV 1b:LVT 1:LV 1b:LVT
  1:LV 1b:LVT 1:LV 1b:LVT 1:LV 1b:LVT 1:LV 1b:LVT 1:LV 1b:LVT 1:LV 1b:LVT 1:LV 1b:LVT 1:LV 1b:LVT
  1:LV 1b:LVT 1:LV 1b:LVT 1:LV 1b:LVT 1:LV 1b:LVT 1:LV 1b:LVT 1:LV 1b:LVT 1:LV 1b:LVT 1:LV 1b:LVT
  1:LV 1b:LVT 1:LV 1b:LVT 1:LV 1b:LVT 1:LV 1b:LVT 1:LV 1b:LVT 1:LV 1b:LVT 1:LV 1b:LVT 1:LV 1b:LVT
  1:LV 1b:LVT 1:LV 1b:LVT 1:LV 1b:LVT 1:LV 1b:LVT 1:LV 1b:LVT 1:LV 1b:LVT 1:LV 1b:LVT 1:LV 1b:LVT
  1:LV 1b:LVT 1:LV 1b:LVT 1:LV 1b:LVT 1:LV 1b:LVT 1:LV 1b:LVT 1:LV 1b:LVT 1:LV 1b:LVT 1:LV 1b:LVT
  1:LV 1b:LVT 1:LV 1b:LVT 1:LV 1b:LVT 1:LV 1b:LVT 1:LV 1b:LVT 1:LV 1b:LVT 1:LV 1b:LVT 1:LV 1b:LVT
  1:LV 1b:LVT 1:LV 1b:LVT 1:LV 1b:LVT 1:LV 1b:LVT 1:LV 1b:LVT 1:LV 1b:LVT 1:LV 1b:LVT 1:LV 1b:LVT
  1:LV 1b:LVT 1:LV 1b:LVT 1:LV 1b:LVT 1:LV 1b:LVT 1:LV 1b:LVT 1:LV 1b:LVT 1:LV 1b:LVT 1:LV 1b:LVT
  1:LV 1b:LVT 1:LV 1b:LVT 1:LV 1b:LVT 1:LV 1b:LVT 1:LV 1b:LVT 1:LV 1b:LVT 1:LV 1b:LVT 1:LV 1b:LVT
  1:LV 1b:LVT 1:LV 1b:LVT 1:LV 1b:LVT 1:LV 1b:LVT 1:LV 1b:LVT 1:LV 1b:LVT 1:LV 1b:LVT 1:LV 1b:LVT
  1:LV 1b:LVT 1:LV 1b:LVT 1:LV 1b:LVT 1:LV 1b:LVT 1:LV 1b:LVT 1:LV 1b:LVT 1:LV 1b:LVT 1:LV 1b:LVT
  1:LV 1b:LVT 1:LV 1b:LVT 1:LV 1b:LVT 1:LV 1b:LVT 1:LV 1b:LVT 1:LV 1b:LVT 1:LV 1b:LVT 1:LV 1b:LVT
  1:LV 1b:LVT 1:LV 1b:LVT 1:LV 1b:LVT 1:LV 1b:LVT 1:LV 1b:LVT 1:LV 1b:LVT 1:LV 1b:LVT 1:LV 1b:LVT
  1:LV 1b:LVT 1:LV 1b:LVT 1:LV 1b:LVT 1:LV 1b:LVT 1:LV 1b:LVT 1:LV 1b:LVT 1:LV 1b:LVT 1:LV 1b:LVT
  1:LV 1b:LVT 1:LV 1b:LVT 1:LV 1b:LVT 1:LV 1b:LVT 1:LV 1b:LVT 1:LV 1b:LVT 1:LV 1b:LVT 1:LV 1b:LVT
  1:LV 1b:LVT 1:LV 1b:LVT 1:LV 1b:LVT 1:LV 1b:LVT 1:LV 1b:LVT 1:LV 1b:LVT 1:LV 1b:LVT 1:LV 1b:LVT
  1:LV 1b:LVT 1:LV 1b:LVT 1:LV 1b:LVT 1:LV 1b:LVT 1:LV 1b:LVT 1:LV 1b:LVT 1:LV 1b:LVT 1:LV 1b:LVT
  1:LV 1b:LVT 1:LV 1b:LVT 1:LV 1b:LVT 1:LV 1b:LVT 1:LV 1b:LVT 1:LV 1b:LVT 1:LV 1b:LVT 1:LV 1b:LVT
  1:LV 1b:LVT 1:LV 1b:LVT 1:LV 1b:LVT 1:LV 1b:LVT 1:LV 1b:LVT 1:LV 1b:LVT 1:LV 1b:LVT 1:LV 1b:LVT
  1:LV 1b:LVT 1:LV 1b:LVT 1:LV 1b:LVT 1:LV 1b:LVT 1:LV 1b:LVT 1:LV 1b:LVT 1:LV 1b:LVT 1:LV 1b:LVT
  1:LV 1b:LVT 1:LV 1b:LVT 1:LV 1b:LVT 1:LV 1b:LVT 1:LV 1b:LVT 1:LV 1b:LVT 1:LV 1b:LVT 1:LV 1b:LVT
  1:LV 1b:LVT 1:LV 1b:LVT 1:LV 1b:LVT 1:LV 1b:LVT 1:LV 1b:LVT 1:LV 1b:LVT 1:LV 1b:LVT 1:LV 1b:LVT
  1:LV 1b:LVT 1:LV 1b:LVT 1:LV 1b:LVT 1:LV 1b:LVT 1:LV 1b:LVT 1:LV 1b:LVT 1:LV 1b:LVT 1:LV 1b:LVT
  1:LV 1b:LVT 1:LV 1b:LVT 1:LV 1b:LVT 1:LV 1b:LVT 1:LV 1b:LVT 1:LV 1b:LVT 1:LV 1b:LVT 1:LV 1b:LVT
  1:LV 1b:LVT 1:LV 1b:LVT 1:LV 1b:LVT 1:LV 1b:LVT 1:LV 1b:LVT 1:LV 1b:LVT 1:LV 1b:LVT 1:LV 1b:LVT
  1:LV 1b:LVT 1:LV 1b:LVT 1:LV 1b:LVT 1:LV 1b:LVT 1:LV 1b:LVT 1:LV 1b:LVT 1:LV 1b:LVT 1:LV 1b:LVT
  1:LV 1b:LVT 1:LV 1b:LVT 1:LV 1b:LVT 1:LV 1b:LVT 1:LV 1b:LVT 1:LV 1b:LVT 1:LV 1b:LVT 1:LV 1b:LVT
  1:LV 1b:LVT 1:LV 1b:LVT 1:LV 1b:LVT 1:LV 1b:LVT 1:LV 1b:LVT 1:LV 1b:LVT 1:LV 1b:LVT 1:LV 1b:LVT
  1:LV 1b:LVT 1:LV 1b:LVT 1:LV 1b:LVT 1:LV 1b:LVT 1:LV 1b:LVT 1:LV 1b:LVT 1:LV 1b:LVT 1:LV 1b:LVT
  1:LV 1b:LVT 1:LV 1b:LVT 1:LV 1b:LVT 1:LV 1b:LVT 1:LV 1b:LVT 1:LV 1b:LVT 1:LV 1b:LVT 1:LV 1b:LVT
  1:LV 1b:LVT 1:LV 1b:LVT 1:LV 1b:LVT 1:LV 1b:LVT 1:LV 1b:LVT 1:LV 1b:LVT 1:LV 1b:LVT 1:LV 1b:LVT
  1:LV 1b:LVT 1:LV 1b:LVT 1:LV 1b:LVT 1:LV 1b:LVT 1:LV 1b:LVT 1:LV 1b:LVT 1:LV 1b:LVT 1:LV 1b:LVT
  1:LV 1b:LVT 1:LV 1b:LVT 1:LV 1b:LVT 1:LV 1b:LVT 1:LV 1b:LVT 1:LV 1b:LVT 1:LV 1b:LVT 1:LV 1b:LVT
  1:LV 1b:LVT 1:LV 1b:LVT 1:LV 1b:LVT 1:LV 1b:LVT 1:LV 1b:LVT 1:LV 1b:LVT 1:LV 1b:LVT 1:LV 1b:LVT
  1:LV 1b:LVT 1:LV 1b:LVT 1:LV 1b:LVT 1:LV 1b:LVT c:XX 17:V 4:XX 31:T 2322:XX 1:EX 2e1:XX 10:EX
  10:XX 10:EX cf:XX 1:CN 9e:XX 2:EX 50:XX c:CN 201:XX 1:EX e2:XX 1:EX 95:XX 5:EX 686:XX 3:EX 1:XX
  2:EX 5:XX 4:EX 28:XX 3:EX 4:XX 1:EX a5:XX 2:EX 23d:XX 4:EX 41:XX 5:EX 13d:XX 2:EX 4f:XX 4:EX
  46:XX b:EX 31:XX 4:EX 7a:XX 1:SM 1:EX 1:SM 35:XX f:EX 29:XX 1:EX 2:XX 2:EX a:XX 3:EX 1:SM 2d:XX
  3:SM 4:EX 2:SM 2:EX 2:XX 1:PP 4:XX 1:EX a:XX 1:PP 32:XX 3:EX 24:XX 5:EX 1:SM 8:EX 10:XX 2:SM
  2c:XX 1:EX c:XX 2:EX 1:SM 30:XX 3:SM 9:EX 1:SM 1:EX 1:XX 2:PP 5:XX 4:EX 1:XX 1:SM 1:EX 5c:XX
  3:SM 3:EX 2:SM 4:EX 6:XX 1:EX 2:XX 1:EX 9d:XX 1:EX 3:SM 8:EX 15:XX 2:EX 2:SM 37:XX 2:EX 1:XX
  1:EX 1:SM 1:EX 4:SM 2:XX 2:SM 2:XX 2:SM 1:EX 9:XX 1:EX a:XX 2:SM 2:XX 7:EX 3:XX 5:EX 43:XX 1:EX
  2:SM 6:EX 1:XX 1:EX 2:XX 1:EX 1:XX 3:EX 1:SM 1:XX 2:SM 3:EX 1:PP 1:EX e:XX 2:EX 52:XX 3:SM 8:EX
  2:SM 3:EX 1:SM 1:EX 17:XX 1:EX 51:XX 1:EX 2:SM 6:EX 1:SM 1:EX 2:SM 1:EX 1:SM 2:EX 1:SM 2:EX
  eb:XX 1:EX 2:SM 4:EX 2:XX 4:SM 2:EX 1:SM 2:EX 1b:XX 2:EX 52:XX 3:SM 8:EX 2:SM 1:EX 1:SM 2:EX
  6a:XX 1:EX 1:SM 1:EX 2:SM 8:EX 65:XX 1:EX 1:SM 1:EX 2:XX 4:EX 1:SM 5:EX 100:XX 3:SM 9:EX 1:SM
  2:EX f5:XX 1:EX 5:SM 1:XX 2:SM 2:XX 4:EX 1:PP 1:SM 1:PP 1:SM 1:EX 8d:XX 3:SM 4:EX 2:XX 2:EX
  4:SM 1:EX 3:XX 1:SM 1c:XX a:EX 28:XX 6:EX 1:SM 1:XX 4:EX 8:XX 1:EX 9:XX 6:EX 2:SM 3:EX 28:XX
  6:PP d:EX 1:SM 2:EX 195:XX 1:SM 7:EX 1:XX 6:EX 1:SM 1:EX 52:XX 16:EX 1:XX 1:SM 7:EX 1:SM 2:EX
  1:SM 2:EX 7a:XX 6:EX 3:XX 1:EX 1:XX 2:EX 1:XX 7:EX 1:PP 1:EX 42:XX 5:SM 1:XX 2:EX 1:XX 2:SM
  1:EX 1:SM 1:EX 15b:XX 2:EX 2:SM 9:XX 2:EX 1:PP 1:SM 30:XX 2:SM 5:EX 3:XX 2:SM 3:EX 17:XX 1:EX
  14d5:XX 10:CN 1:EX 6:XX f:EX 2cc8:XX c:EX 3:SM 3:EX 9c0:XX 5:EX 3b:XX 7:EX 22c:XX 1:V 3:XX 4:V
  1e4:XX 1:EX 1:XX 37:SM 7:XX 4:EX 51:XX 1:EX b:XX 2:EX 4cab:XX 2:EX 1:XX 4:CN 125c:XX 2e:EX 2:XX
  17:EX 21e:XX 5:EX 3:XX 6:EX 8:CN 8:EX 2:XX 7:EX 1e:XX 4:EX 94:XX 3:EX 7bb:XX 37:EX 4:XX 32:EX
  8:XX 1:EX e:XX 1:EX 16:XX 5:EX 1:XX f:EX 550:XX 7:EX 1:XX 11:EX 2:XX 7:EX 1:XX 2:EX 1:XX 5:EX
  64:XX 1:EX a0:XX 7:EX 177:XX 1:EX 3d:XX 4:EX 1fc:XX 4:EX fe:XX 2:EX 2e0:XX 7:EX 6d:XX 7:EX
  89b:XX 1a:RI 1fb:XX 5:EX c0c00:XX 20:CN 60:EX 80:CN f0:EX e10:CN 2f000:XX"

def word : Partition := .parse
  "a:XX 1:LF 2:NL 1:CR 12:XX 1:WSegSpace 1:XX 1:DQ 4:XX 1:SQ 4:XX 1:MN 1:XX 1:MB 1:XX a:NU 1:ML
  1:MN 5:XX 1a:LE 4:XX 1:EX 1:XX 1a:LE a:XX 1:NL 24:XX 1:LE 2:XX 1:FO 7:XX 1:LE 1:XX 1:ML 1:LE
  1:XX 1:LE 5:XX 17:LE 1:XX 1f:LE 1:XX 1e0:LE 6:XX 22:LE 70:Extend 5:LE 1:XX 2:LE 2:XX 4:LE 1:MN
  1:LE 6:XX 1:LE 1:ML 3:LE 1:XX 1:LE 1:XX 14:LE 1:XX 53:LE 1:XX 8b:LE 1:XX 7:Extend a6:LE 1:XX
  26:LE 2:XX 4:LE 1:XX 1:LE 1:ML 29:LE 1:MN 1:LE 6:XX 2d:Extend 1:XX 1:Extend 1:XX 2:Extend 1:XX
  2:Extend 1:XX 1:Extend 8:XX 1b:HL 4:XX 4:HL 1:LE 1:ML b:XX 6:NU 6:XX 2:MN 2:XX b:Extend 1:XX
  1:FO 3:XX 2b:LE 15:Extend a:NU 1:XX 1:NU 1:MN 1:XX 2:LE 1:Extend 63:LE 1:XX 1:LE 7:Extend 1:NU
  1:XX 6:Extend 2:LE 2:Extend 1:XX 4:Extend 2:LE a:NU 3:LE 2:XX 1:LE f:XX 2:LE 1:Extend 1e:LE
  1b:Extend 2:XX 59:LE b:Extend 1:LE e:XX a:NU 21:LE 9:Extend 2:LE 2:XX 1:MN 1:XX 1:LE 2:XX
  1:Extend 2:XX 16:LE 4:Extend 1:LE 9:Extend 1:LE 3:Extend 1:LE 5:Extend 12:XX 19:LE 3:Extend
  4:XX b:LE 5:XX 18:LE 1:XX 6:LE 1:XX 2:NU 5:XX 9:Extend 2a:LE 18:Extend 1:NU 21:Extend 36:LE
  3:Extend 1:LE 12:Extend 1:LE 7:Extend a:LE 2:Extend 2:XX a:NU 1:XX 10:LE 3:Extend 1:XX 8:LE
  2:XX 2:LE 2:XX 16:LE 1:XX 7:LE 1:XX 1:LE 3:XX 4:LE 2:XX 1:Extend 1:LE 7:Extend 2:XX 2:Extend
  2:XX 3:Extend 1:LE 8:XX 1:Extend 4:XX 2:LE 1:XX 3:LE 2:Extend 2:XX a:NU 2:LE a:XX 1:LE 1:XX
  1:Extend 2:XX 3:Extend 1:XX 6:LE 4:XX 2:LE 2:XX 16:LE 1:XX 7:LE 1:XX 2:LE 1:XX 2:LE 1:XX 2:LE
  2:XX 1:Extend 1:XX 5:Extend 4:XX 2:Extend 2:XX 3:Extend 3:XX 1:Extend 7:XX 4:LE 1:XX 1:LE 7:XX
  a:NU 2:Extend 3:LE 1:Extend b:XX 3:Extend 1:XX 9:LE 1:XX 3:LE 1:XX 16:LE 1:XX 7:LE 1:XX 2:LE
  1:XX 5:LE 2:XX 1:Extend 1:LE 8:Extend 1:XX 3:Extend 1:XX 3:Extend 2:XX 1:LE f:XX 2:LE 2:Extend
  2:XX a:NU 9:XX 1:LE 6:Extend 1:XX 3:Extend 1:XX 8:LE 2:XX 2:LE 2:XX 16:LE 1:XX 7:LE 1:XX 2:LE
  1:XX 5:LE 2:XX 1:Extend 1:LE 7:Extend 2:XX 2:Extend 2:XX 3:Extend 7:XX 3:Extend 4:XX 2:LE 1:XX
  3:LE 2:Extend 2:XX a:NU 1:XX 1:LE 10:XX 1:Extend 1:LE 1:XX 6:LE 3:XX 3:LE 1:XX 4:LE 3:XX 2:LE
  1:XX 1:LE 1:XX 2:LE 3:XX 2:LE 3:XX 3:LE 3:XX c:LE 4:XX 5:Extend 3:XX 3:Extend 1:XX 4:Extend
  2:XX 1:LE 6:XX 1:Extend e:XX a:NU 10:XX 5:Extend 8:LE 1:XX 3:LE 1:XX 17:LE 1:XX 10:LE 2:XX
  1:Extend 1:LE 7:Extend 1:XX 3:Extend 1:XX 4:Extend 7:XX 2:Extend 1:XX 3:LE 2:XX 1:LE 2:XX 2:LE
  2:Extend 2:XX a:NU 10:XX 1:LE 3:Extend 1:XX 8:LE 1:XX 3:LE 1:XX 17:LE 1:XX a:LE 1:XX 5:LE 2:XX
  1:Extend 1:LE 7:Extend 1:XX 3:Extend 1:XX 4:Extend 7:XX 2:Extend 6:XX 2:LE 1:XX 2:LE 2:Extend
  2:XX a:NU 1:XX 2:LE 1:Extend c:XX 4:Extend 9:LE 1:XX 3:LE 1:XX 29:LE 2:Extend 1:LE 7:Extend
  1:XX 3:Extend 1:XX 4:Extend 1:LE 5:XX 3:LE 1:Extend 7:XX 3:LE 2:Extend 2:XX a:NU a:XX 6:LE 1:XX
  3:Extend 1:XX 12:LE 3:XX 18:LE 1:XX 9:LE 1:XX 1:LE 2:XX 7:LE 3:XX 1:Extend 4:XX 6:Extend 1:XX
  1:Extend 1:XX 8:Extend 6:XX a:NU 2:XX 2:Extend 3d:XX 1:Extend 2:XX 7:Extend c:XX 8:Extend 1:XX
  a:NU 57:XX 1:Extend 2:XX 9:Extend b:XX 7:Extend 1:XX a:NU 26:XX 1:LE 17:XX 2:Extend 6:XX a:NU
  b:XX 1:Extend 1:XX 1:Extend 1:XX 1:Extend 4:XX 2:Extend 8:LE 1:XX 24:LE 4:XX 14:Extend 1:XX
  2:Extend 5:LE b:Extend 1:XX 24:Extend 9:XX 1:Extend 64:XX 14:Extend 1:XX a:NU c:XX 4:Extend
  4:XX 3:Extend 1:XX 3:Extend 2:XX 7:Extend 3:XX 4:Extend d:XX c:Extend 1:XX 1:Extend a:NU
  4:Extend 2:XX 26:LE 1:XX 1:LE 5:XX 1:LE 2:XX 2b:LE 1:XX 14d:LE 1:XX 4:LE 2:XX 7:LE 1:XX 1:LE
  1:XX 4:LE 2:XX 29:LE 1:XX 4:LE 2:XX 21:LE 1:XX 4:LE 2:XX 7:LE 1:XX 1:LE 1:XX 4:LE 2:XX f:LE
  1:XX 39:LE 1:XX 4:LE 2:XX 43:LE 2:XX 3:Extend 20:XX 10:LE 10:XX 56:LE 2:XX 6:LE 3:XX 26c:LE
  2:XX 11:LE 1:WSegSpace 1a:LE 5:XX 4b:LE 3:XX b:LE 7:XX 12:LE 4:Extend 9:XX 13:LE 3:Extend b:XX
  12:LE 2:Extend c:XX d:LE 1:XX 3:LE 1:XX 2:Extend 40:XX 20:Extend 9:XX 1:Extend 2:XX a:NU 21:XX
  3:Extend 1:FO 1:Extend a:NU 6:XX 59:LE 7:XX 5:LE 2:Extend 22:LE 1:Extend 1:LE 5:XX 46:LE a:XX
  1f:LE 1:XX c:Extend 4:XX c:Extend a:XX a:NU 80:XX b:NU 25:XX 17:LE 5:Extend 39:XX a:Extend 1:XX
  1d:Extend 2:XX 1:Extend a:NU 6:XX a:NU 16:XX 1f:Extend 31:XX 5:Extend 2f:LE 11:Extend 8:LE 3:XX
  a:NU 11:XX 9:Extend c:XX 3:Extend 1e:LE d:Extend 2:LE a:NU 2c:LE e:Extend c:XX 24:LE 14:Extend
  8:XX a:NU 3:XX 3:LE a:NU 24:LE 2:XX b:LE 5:XX 2b:LE 2:XX 3:LE 10:XX 3:Extend 1:XX 15:Extend
  4:LE 1:Extend 6:LE 1:Extend 2:LE 3:Extend 1:LE 5:XX c0:LE 40:Extend 116:LE 2:XX 6:LE 2:XX 26:LE
  2:XX 6:LE 2:XX 8:LE 1:XX 1:LE 1:XX 1:LE 1:XX 1:LE 1:XX 1f:LE 2:XX 35:LE 1:XX 7:LE 1:XX 1:LE
  3:XX 3:LE 1:XX 7:LE 3:XX 4:LE 2:XX 6:LE 4:XX d:LE 5:XX 3:LE 1:XX 7:LE 3:XX 7:WSegSpace 1:XX
  3:WSegSpace 1:XX 1:Extend 1:ZWJ 2:FO 8:XX 2:MB a:XX 1:MB 2:XX 1:ML 2:NL 5:FO 1:EX f:XX 2:EX
  3:XX 1:MN f:XX 1:EX a:XX 1:WSegSpace 5:FO 1:XX a:FO 1:XX 1:LE d:XX 1:LE 10:XX d:LE 33:XX
  21:Extend 11:XX 1:LE 4:XX 1:LE 2:XX a:LE 1:XX 1:LE 3:XX 5:LE 6:XX 1:LE 1:XX 1:LE 1:XX 1:LE 1:XX
  4:LE 1:XX b:LE 2:XX 4:LE 5:XX 5:LE 4:XX 1:LE 11:XX 29:LE 32d:XX 34:LE 716:XX e5:LE 6:XX 4:LE
  3:Extend 2:LE c:XX 26:LE 1:XX 1:LE 5:XX 1:LE 2:XX 38:LE 7:XX 1:LE f:XX 1:Extend 17:LE 9:XX 7:LE
  1:XX 7:LE 1:XX 7:LE 1:XX 7:LE 1:XX 7:LE 1:XX 7:LE 1:XX 7:LE 1:XX 7:LE 1:XX 20:Extend 2f:XX 1:LE
  1d0:XX 1:WSegSpace 4:XX 1:LE 24:XX 6:Extend 1:XX 5:KA 5:XX 2:LE 5c:XX 2:Extend 2:KA 3:XX 5b:KA
  1:XX 4:KA 5:XX 2b:LE 1:XX 5e:LE 11:XX 20:LE 30:XX 10:KA d0:XX 2f:KA 1:XX 58:KA 6ca8:XX 48d:LE
  43:XX 2e:LE 2:XX 10d:LE 3:XX 10:LE a:NU 2:LE 14:XX 2f:LE 4:Extend 1:XX a:Extend 1:XX 1f:LE
  2:Extend 50:LE 2:Extend 16:XX c6:LE 2:XX 2:LE 1:XX 1:LE 1:XX 8:LE 15:XX 10:LE 1:Extend 3:LE
  1:Extend 4:LE 1:Extend 17:LE 5:Extend 4:XX 1:Extend 13:XX 34:LE c:XX 2:Extend 32:LE 12:Extend
  a:XX a:NU 6:XX 12:Extend 6:LE 3:XX 1:LE 1:XX 2:LE 1:Extend a:NU 1c:LE 8:Extend 2:XX 17:LE
  d:Extend c:XX 1d:LE 3:XX 4:Extend 2f:LE e:Extend e:XX 1:LE a:NU b:XX 1:Extend a:XX a:NU 6:XX
  29:LE e:Extend 9:XX 3:LE 1:Extend 8:LE 2:Extend 2:XX a:NU 21:XX 3:Extend 32:XX 1:Extend 1:XX
  3:Extend 2:XX 2:Extend 5:XX 2:Extend 1:XX 1:Extend 1e:XX b:LE 5:Extend 2:XX 3:LE 2:Extend a:XX
  6:LE 2:XX 6:LE 2:XX 6:LE 9:XX 7:LE 1:XX 7:LE 1:XX 3a:LE 6:XX 73:LE 8:Extend 1:XX 2:Extend 2:XX
  a:NU 6:XX 2ba4:LE c:XX 17:LE 4:XX 31:LE 2304:XX 7:LE c:XX 5:LE 5:XX 1:HL 1:Extend a:HL 1:XX
  d:HL 1:XX 5:HL 1:XX 1:HL 1:XX 2:HL 1:XX 2:HL 1:XX a:HL 62:LE 21:XX 16b:LE 12:XX 40:LE 2:XX
  36:LE 28:XX c:LE 4:XX 10:Extend 3:XX 1:ML c:XX 10:Extend 3:XX 2:EX 18:XX 3:EX 1:MN 1:XX 1:MB
  1:XX 1:MN 1:ML 1a:XX 5:LE 1:XX 87:LE 2:XX 1:FO 7:XX 1:MB 4:XX 1:MN 1:XX 1:MB 1:XX a:NU 1:ML
  1:MN 5:XX 1a:LE 4:XX 1:EX 1:XX 1a:LE b:XX 38:KA 2:Extend 1f:LE 3:XX 6:LE 2:XX 6:LE 2:XX 6:LE
  2:XX 3:LE 1c:XX 3:FO 4:XX c:LE 1:XX 1a:LE 1:XX 13:LE 1:XX 2:LE 1:XX f:LE 2:XX e:LE 22:XX 7b:LE
  45:XX 35:LE 88:XX 1:Extend 82:XX 1d:LE 3:XX 31:LE f:XX 1:Extend 1f:XX 20:LE d:XX 1e:LE 5:XX
  26:LE 5:Extend 5:XX 1e:LE 2:XX 24:LE 4:XX 8:LE 1:XX 5:LE 2a:XX 9e:LE 2:XX a:NU 6:XX 24:LE 4:XX
  24:LE 4:XX 28:LE 8:XX 34:LE c:XX b:LE 1:XX f:LE 1:XX 7:LE 1:XX 2:LE 1:XX b:LE 1:XX f:LE 1:XX
  7:LE 1:XX 2:LE 3:XX 34:LE c:XX 137:LE 9:XX 16:LE a:XX 8:LE 18:XX 6:LE 1:XX 2a:LE 1:XX 9:LE
  45:XX 6:LE 2:XX 1:LE 1:XX 2c:LE 1:XX 2:LE 3:XX 1:LE 2:XX 17:LE a:XX 17:LE 9:XX 1f:LE 41:XX
  13:LE 1:XX 2:LE a:XX 16:LE a:XX 1a:LE 46:XX 38:LE 6:XX 2:LE 40:XX 1:LE 3:Extend 1:XX 2:Extend
  5:XX 4:Extend 4:LE 1:XX 3:LE 1:XX 1d:LE 2:XX 3:Extend 4:XX 1:Extend 20:XX 1d:LE 3:XX 1d:LE
  23:XX 8:LE 1:XX 1c:LE 2:Extend 19:XX 36:LE a:XX 16:LE a:XX 13:LE d:XX 12:LE 6e:XX 49:LE 37:XX
  33:LE d:XX 33:LE d:XX 24:LE 4:Extend 8:XX a:NU 6:XX a:NU 1c:LE 3:XX 5:Extend 1:XX 17:LE fa:XX
  2a:LE 1:XX 2:Extend 3:XX 2:LE 10:XX 3:LE 37:XX 4:Extend 1d:LE a:XX 1:LE 8:XX 16:LE b:Extend
  1f:XX 12:LE 4:Extend 2a:XX 15:LE 1b:XX 17:LE 9:XX 3:Extend 35:LE f:Extend 1f:XX a:NU 1:Extend
  2:LE 2:Extend 1:LE 9:XX 4:Extend 2d:LE b:Extend 2:XX 1:NU 4:XX 1:Extend a:XX 1:NU 2:XX 19:LE
  7:XX a:NU 6:XX 3:Extend 24:LE e:Extend 1:XX a:NU 4:XX 1:LE 2:Extend 1:LE 8:XX 23:LE 1:Extend
  2:XX 1:LE 9:XX 3:Extend 30:LE e:Extend 4:LE 4:XX 4:Extend 1:XX 2:Extend a:NU 1:LE 1:XX 1:LE
  23:XX 12:LE 1:XX 19:LE c:Extend 6:XX 1:Extend 2:LE 1:Extend 3e:XX 7:LE 1:XX 1:LE 1:XX 4:LE 1:XX
  f:LE 1:XX a:LE 7:XX 2f:LE c:Extend 5:XX a:NU 6:XX 4:Extend 1:XX 8:LE 2:XX 2:LE 2:XX 16:LE 1:XX
  7:LE 1:XX 2:LE 1:XX 5:LE 1:XX 2:Extend 1:LE 7:Extend 2:XX 2:Extend 2:XX 3:Extend 2:XX 1:LE 6:XX
  1:Extend 5:XX 5:LE 2:Extend 2:XX 7:Extend 3:XX 5:Extend b:XX a:LE 1:XX 1:LE 2:XX 1:LE 1:XX
  26:LE 1:XX 1:LE 9:Extend 1:XX 1:Extend 2:XX 1:Extend 1:XX 4:Extend 1:XX 5:Extend 1:LE 1:Extend
  1:LE d:XX 2:Extend 1d:XX 35:LE 12:Extend 4:LE 5:XX a:NU 4:XX 1:Extend 3:LE 1e:XX 30:LE
  14:Extend 2:LE 1:XX 1:LE 8:XX a:NU a6:XX 2f:LE 7:Extend 2:XX 9:Extend 17:XX 4:LE 2:Extend 22:XX
  30:LE 11:Extend 3:XX 1:LE b:XX a:NU 26:XX 2b:LE d:Extend 1:LE 7:XX a:NU 6:XX 14:NU 39:XX
  f:Extend 4:XX a:NU c6:XX 2c:LE f:Extend 65:XX 40:LE a:NU 15:XX 8:LE 2:XX 1:LE 2:XX 8:LE 1:XX
  2:LE 1:XX 18:LE 6:Extend 1:XX 2:Extend 2:XX 4:Extend 1:LE 1:Extend 1:LE 2:Extend c:XX a:NU
  46:XX 8:LE 2:XX 27:LE 7:Extend 2:XX 7:Extend 1:LE 1:XX 1:LE 1:Extend 1b:XX 1:LE a:Extend 28:LE
  7:Extend 1:LE 4:Extend 8:XX 1:Extend 8:XX 1:LE b:Extend 2e:LE 10:Extend 3:XX 1:LE 12:XX 49:LE
  c7:XX 21:LE f:XX a:NU 6:XX 9:LE 1:XX 25:LE 8:Extend 1:XX 8:Extend 1:LE f:XX a:NU 18:XX 1e:LE
  2:XX 16:Extend 1:XX e:Extend 49:XX 7:LE 1:XX 2:LE 1:XX 26:LE 6:Extend 3:XX 1:Extend 1:XX
  2:Extend 1:XX 7:Extend 1:LE 1:Extend 8:XX a:NU 6:XX 6:LE 1:XX 2:LE 1:XX 20:LE 5:Extend 1:XX
  2:Extend 1:XX 5:Extend 1:LE 7:XX a:NU 136:XX 13:LE 4:Extend 9:XX 2:Extend 1:LE 1:Extend d:LE
  1:XX 22:LE 7:Extend 3:XX 5:Extend d:XX a:NU 1:Extend 55:XX 1:LE 4f:XX 39a:LE 66:XX 6f:LE 11:XX
  c4:LE a4c:XX 61:LE f:XX 430:LE 10:FO 1:Extend 6:LE f:Extend a:XX f9b:LE 5:XX 247:LE 1ab9:XX
  1e:LE 12:Extend a:NU 6c6:XX 239:LE 7:XX 1f:LE 1:XX a:NU 6:XX 4f:LE 1:XX a:NU 6:XX 1e:LE 2:XX
  5:Extend b:XX 30:LE 7:Extend 9:XX 4:LE c:XX a:NU 9:XX 15:LE 5:XX 13:LE 1b0:XX 2d:LE 3:XX a:NU
  c6:XX 40:LE 80:XX 4b:LE 4:XX 1:Extend 1:LE 37:Extend 7:XX 4:Extend d:LE 40:XX 2:LE 1:XX 1:LE
  1:Extend b:XX 2:Extend 3ffe:XX 4:KA 1:XX 7:KA 1:XX 2:KA 1:XX 1:KA 11f:XX 3:KA 32:XX 1:KA e:XX
  4:KA a98:XX 6b:LE 5:XX d:LE 3:XX 9:LE 7:XX a:LE 3:XX 2:Extend 1:XX 4:FO 104c:XX a:NU 206:XX
  2e:Extend 2:XX 17:Extend 21e:XX 5:Extend 3:XX 6:Extend 8:FO 8:Extend 2:XX 7:Extend 1e:XX
  4:Extend 94:XX 3:Extend 1bb:XX 55:LE 1:XX 47:LE 1:XX 2:LE 2:XX 1:LE 2:XX 2:LE 2:XX 4:LE 1:XX
  c:LE 1:XX 1:LE 1:XX 7:LE 1:XX 41:LE 1:XX 4:LE 2:XX 8:LE 1:XX 7:LE 1:XX 1c:LE 1:XX 4:LE 1:XX
  5:LE 1:XX 1:LE 3:XX 7:LE 1:XX 154:LE 2:XX 19:LE 1:XX 19:LE 1:XX 1f:LE 1:XX 19:LE 1:XX 1f:LE
  1:XX 19:LE 1:XX 1f:LE 1:XX 19:LE 1:XX 1f:LE 1:XX 19:LE 1:XX 8:LE 2:XX 32:NU 200:XX 37:Extend
  4:XX 32:Extend 8:XX 1:Extend e:XX 1:Extend 16:XX 5:Extend 1:XX f:Extend 450:XX 1f:LE 6:XX 6:LE
  d5:XX 7:Extend 1:XX 11:Extend 2:XX 7:Extend 1:XX 2:Extend 1:XX 5:Extend 5:XX 3e:LE 21:XX
  1:Extend 70:XX 2d:LE 3:XX 7:Extend 7:LE 2:XX a:NU 4:XX 1:LE 141:XX 1e:LE 1:Extend 11:XX 2c:LE
  4:Extend a:NU 1d6:XX 1c:LE 4:Extend a:NU d6:XX 1e:LE 2:Extend 1:LE a:NU 1e5:XX 7:LE 1:XX 4:LE
  1:XX 2:LE 1:XX f:LE 1:XX c5:LE b:XX 7:Extend 29:XX 44:LE 7:Extend 1:LE 4:XX a:NU 4a6:XX 4:LE
  1:XX 1b:LE 1:XX 2:LE 1:XX 1:LE 2:XX 1:LE 1:XX a:LE 1:XX 4:LE 1:XX 1:LE 1:XX 1:LE 6:XX 1:LE 4:XX
  1:LE 1:XX 1:LE 1:XX 1:LE 1:XX 3:LE 1:XX 2:LE 1:XX 1:LE 2:XX 1:LE 1:XX 1:LE 1:XX 1:LE 1:XX 1:LE
  1:XX 1:LE 1:XX 2:LE 1:XX 1:LE 2:XX 4:LE 1:XX 7:LE 1:XX 4:LE 1:XX 4:LE 1:XX 1:LE 1:XX a:LE 1:XX
  11:LE 5:XX 3:LE 1:XX 5:LE 1:XX 11:LE 274:XX 1a:LE 6:XX 1a:LE 6:XX 1a:LE 5c:XX 1a:RI 1fb:XX
  5:Extend 7f0:XX a:NU c0407:XX 1:FO 1e:XX 60:Extend 80:XX f0:Extend 2fe10:XX"

def sentence : Partition := .parse
  "9:XX 1:SP 1:LF 2:SP 1:CR 12:XX 1:SP 1:ST 1:CL 4:XX 3:CL 2:XX 2:SC 1:AT 1:XX a:NU 2:SC 3:XX 1:ST
  1:XX 1a:UP 1:CL 1:XX 1:CL 3:XX 1a:LO 1:CL 1:XX 1:CL 7:XX 1:SE 1a:XX 1:SP 9:XX 1:LO 1:CL 1:XX
  1:FO 7:XX 1:LO 4:XX 1:LO 1:CL 4:XX 17:UP 1:XX 7:UP 18:LO 1:XX 8:LO 1:UP 1:LO 1:UP 1:LO 1:UP
  1:LO 1:UP 1:LO 1:UP 1:LO 1:UP 1:LO 1:UP 1:LO 1:UP 1:LO 1:UP 1:LO 1:UP 1:LO 1:UP 1:LO 1:UP 1:LO
  1:UP 1:LO 1:UP 1:LO 1:UP 1:LO 1:UP 1:LO 1:UP 1:LO 1:UP 1:LO 1:UP 1:LO 1:UP 1:LO 1:UP 1:LO 1:UP
  1:LO 1:UP 1:LO 1:UP 1:LO 1:UP 1:LO 1:UP 1:LO 1:UP 1:LO 1:UP 2:LO 1:UP 1:LO 1:UP 1:LO 1:UP 1:LO
  1:UP 1:LO 1:UP 1:LO 1:UP 1:LO 1:UP 1:LO 1:UP 2:LO 1:UP 1:LO 1:UP 1:LO 1:UP 1:LO 1:UP 1:LO 1:UP
  1:LO 1:UP 1:LO 1:UP 1:LO 1:UP 1:LO 1:UP 1:LO 1:UP 1:LO 1:UP 1:LO 1:UP 1:LO 1:UP 1:LO 1:UP 1:LO
  1:UP 1:LO 1:UP 1:LO 1:UP 1:LO 1:UP 1:LO 1:UP 1:LO 1:UP 1:LO 1:UP 1:LO 1:UP 1:LO 1:UP 1:LO 2:UP
  1:LO 1:UP 1:LO 1:UP 3:LO 2:UP 1:LO 1:UP 1:LO 2:UP 1:LO 3:UP 2:LO 4:UP 1:LO 2:UP 1:LO 3:UP 3:LO
  2:UP 1:LO 2:UP 1:LO 1:UP 1:LO 1:UP 1:LO 2:UP 1:LO 1:UP 2:LO 1:UP 1:LO 2:UP 1:LO 3:UP 1:LO 1:UP
  1:LO 2:UP 2:LO 1:LE 1:UP 3:LO 4:LE 2:UP 1:LO 2:UP 1:LO 2:UP 1:LO 1:UP 1:LO 1:UP 1:LO 1:UP 1:LO
  1:UP 1:LO 1:UP 1:LO 1:UP 1:LO 1:UP 1:LO 1:UP 2:LO 1:UP 1:LO 1:UP 1:LO 1:UP 1:LO 1:UP 1:LO 1:UP
  1:LO 1:UP 1:LO 1:UP 1:LO 1:UP 1:LO 1:UP 2:LO 2:UP 1:LO 1:UP 1:LO 3:UP 1:LO 1:UP 1:LO 1:UP 1:LO
  1:UP 1:LO 1:UP 1:LO 1:UP 1:LO 1:UP 1:LO 1:UP 1:LO 1:UP 1:LO 1:UP 1:LO 1:UP 1:LO 1:UP 1:LO 1:UP
  1:LO 1:UP 1:LO 1:UP 1:LO 1:UP 1:LO 1:UP 1:LO 1:UP 1:LO 1:UP 1:LO 1:UP 1:LO 1:UP 1:LO 1:UP 1:LO
  1:UP 1:LO 1:UP 1:LO 1:UP 1:LO 1:UP 1:LO 1:UP 1:LO 1:UP 1:LO 1:UP 1:LO 1:UP 7:LO 2:UP 1:LO 2:UP
  2:LO 1:UP 1:LO 4:UP 1:LO 1:UP 1:LO 1:UP 1:LO 1:UP 1:LO 1:UP 45:LO 1:LE 24:LO 7:LE 2:LO 4:XX
  c:LE e:XX 5:LO 7:XX 1:LE 1:XX 1:LE 11:XX 70:EX 1:UP 1:LO 1:UP 1:LO 1:LE 1:XX 1:UP 1:LO 2:XX
  4:LO 1:SC 1:UP 6:XX 1:UP 1:XX 3:UP 1:XX 1:UP 1:XX 2:UP 1:LO 11:UP 1:XX 9:UP 23:LO 1:UP 2:LO
  3:UP 3:LO 1:UP 1:LO 1:UP 1:LO 1:UP 1:LO 1:UP 1:LO 1:UP 1:LO 1:UP 1:LO 1:UP 1:LO 1:UP 1:LO 1:UP
  1:LO 1:UP 1:LO 1:UP 1:LO 1:UP 5:LO 1:UP 1:LO 1:XX 1:UP 1:LO 2:UP 2:LO 33:UP 30:LO 1:UP 1:LO
  1:UP 1:LO 1:UP 1:LO 1:UP 1:LO 1:UP 1:LO 1:UP 1:LO 1:UP 1:LO 1:UP 1:LO 1:UP 1:LO 1:UP 1:LO 1:UP
  1:LO 1:UP 1:LO 1:UP 1:LO 1:UP 1:LO 1:UP 1:LO 1:UP 1:LO 1:UP 1:LO 1:XX 7:EX 1:UP 1:LO 1:UP 1:LO
  1:UP 1:LO 1:UP 1:LO 1:UP 1:LO 1:UP 1:LO 1:UP 1:LO 1:UP 1:LO 1:UP 1:LO 1:UP 1:LO 1:UP 1:LO 1:UP
  1:LO 1:UP 1:LO 1:UP 1:LO 1:UP 1:LO 1:UP 1:LO 1:UP 1:LO 1:UP 1:LO 1:UP 1:LO 1:UP 1:LO 1:UP 1:LO
  1:UP 1:LO 1:UP 1:LO 1:UP 1:LO 1:UP 1:LO 1:UP 1:LO 1:UP 1:LO 2:UP 1:LO 1:UP 1:LO 1:UP 1:LO 1:UP
  1:LO 1:UP 1:LO 1:UP 1:LO 1:UP 2:LO 1:UP 1:LO 1:UP 1:LO 1:UP 1:LO 1:UP 1:LO 1:UP 1:LO 1:UP 1:LO
  1:UP 1:LO 1:UP 1:LO 1:UP 1:LO 1:UP 1:LO 1:UP 1:LO 1:UP 1:LO 1:UP 1:LO 1:UP 1:LO 1:UP 1:LO 1:UP
  1:LO 1:UP 1:LO 1:UP 1:LO 1:UP 1:LO 1:UP 1:LO 1:UP 1:LO 1:UP 1:LO 1:UP 1:LO 1:UP 1:LO 1:UP 1:LO
  1:UP 1:LO 1:UP 1:LO 1:UP 1:LO 1:UP 1:LO 1:UP 1:LO 1:UP 1:LO 1:UP 1:LO 1:UP 1:LO 1:UP 1:LO 1:UP
  1:LO 1:UP 1:LO 1:UP 1:LO 1:UP 1:LO 1:UP 1:LO 1:UP 1:LO 1:UP 1:LO 1:UP 1:LO 1:UP 1:LO 1:UP 1:LO
  1:UP 1:LO 1:UP 1:LO 1:UP 1:LO 1:UP 1:LO 1:XX 26:UP 2:XX 1:LE 3:XX 1:SC 2:XX 29:LO 1:ST 7:XX
  2d:EX 1:XX 1:EX 1:XX 2:EX 1:XX 2:EX 1:XX 1:EX 8:XX 1b:LE 4:XX 5:LE c:XX 6:NU 6:XX 2:SC 2:XX
  b:EX 1:XX 1:FO 3:ST 2b:LE 15:EX a:NU 1:XX 2:NU 1:XX 2:LE 1:EX 63:LE 1:ST 1:LE 7:EX 1:NU 1:XX
  6:EX 2:LE 2:EX 1:XX 4:EX 2:LE a:NU 3:LE 2:XX 1:LE 3:ST c:XX 1:FO 1:LE 1:EX 1e:LE 1b:EX 2:XX
  59:LE b:EX 1:LE e:XX a:NU 21:LE 9:EX 2:LE 2:XX 1:SC 1:ST 1:LE 2:XX 1:EX 2:XX 16:LE 4:EX 1:LE
  9:EX 1:LE 3:EX 1:LE 5:EX 9:XX 1:ST 1:XX 1:ST 3:XX 2:ST 1:XX 19:LE 3:EX 4:XX b:LE 5:XX 18:LE
  1:XX 6:LE 1:XX 2:NU 5:XX 9:EX 2a:LE 18:EX 1:NU 21:EX 36:LE 3:EX 1:LE 12:EX 1:LE 7:EX a:LE 2:EX
  2:ST a:NU 1:XX 10:LE 3:EX 1:XX 8:LE 2:XX 2:LE 2:XX 16:LE 1:XX 7:LE 1:XX 1:LE 3:XX 4:LE 2:XX
  1:EX 1:LE 7:EX 2:XX 2:EX 2:XX 3:EX 1:LE 8:XX 1:EX 4:XX 2:LE 1:XX 3:LE 2:EX 2:XX a:NU 2:LE a:XX
  1:LE 1:XX 1:EX 2:XX 3:EX 1:XX 6:LE 4:XX 2:LE 2:XX 16:LE 1:XX 7:LE 1:XX 2:LE 1:XX 2:LE 1:XX 2:LE
  2:XX 1:EX 1:XX 5:EX 4:XX 2:EX 2:XX 3:EX 3:XX 1:EX 7:XX 4:LE 1:XX 1:LE 7:XX a:NU 2:EX 3:LE 1:EX
  b:XX 3:EX 1:XX 9:LE 1:XX 3:LE 1:XX 16:LE 1:XX 7:LE 1:XX 2:LE 1:XX 5:LE 2:XX 1:EX 1:LE 8:EX 1:XX
  3:EX 1:XX 3:EX 2:XX 1:LE f:XX 2:LE 2:EX 2:XX a:NU 9:XX 1:LE 6:EX 1:XX 3:EX 1:XX 8:LE 2:XX 2:LE
  2:XX 16:LE 1:XX 7:LE 1:XX 2:LE 1:XX 5:LE 2:XX 1:EX 1:LE 7:EX 2:XX 2:EX 2:XX 3:EX 7:XX 3:EX 4:XX
  2:LE 1:XX 3:LE 2:EX 2:XX a:NU 1:XX 1:LE 10:XX 1:EX 1:LE 1:XX 6:LE 3:XX 3:LE 1:XX 4:LE 3:XX 2:LE
  1:XX 1:LE 1:XX 2:LE 3:XX 2:LE 3:XX 3:LE 3:XX c:LE 4:XX 5:EX 3:XX 3:EX 1:XX 4:EX 2:XX 1:LE 6:XX
  1:EX e:XX a:NU 10:XX 5:EX 8:LE 1:XX 3:LE 1:XX 17:LE 1:XX 10:LE 2:XX 1:EX 1:LE 7:EX 1:XX 3:EX
  1:XX 4:EX 7:XX 2:EX 1:XX 3:LE 2:XX 1:LE 2:XX 2:LE 2:EX 2:XX a:NU 10:XX 1:LE 3:EX 1:XX 8:LE 1:XX
  3:LE 1:XX 17:LE 1:XX a:LE 1:XX 5:LE 2:XX 1:EX 1:LE 7:EX 1:XX 3:EX 1:XX 4:EX 7:XX 2:EX 6:XX 2:LE
  1:XX 2:LE 2:EX 2:XX a:NU 1:XX 2:LE 1:EX c:XX 4:EX 9:LE 1:XX 3:LE 1:XX 29:LE 2:EX 1:LE 7:EX 1:XX
  3:EX 1:XX 4:EX 1:LE 5:XX 3:LE 1:EX 7:XX 3:LE 2:EX 2:XX a:NU a:XX 6:LE 1:XX 3:EX 1:XX 12:LE 3:XX
  18:LE 1:XX 9:LE 1:XX 1:LE 2:XX 7:LE 3:XX 1:EX 4:XX 6:EX 1:XX 1:EX 1:XX 8:EX 6:XX a:NU 2:XX 2:EX
  d:XX 30:LE 1:EX 2:LE 7:EX 5:XX 7:LE 8:EX 1:XX a:NU 27:XX 2:LE 1:XX 1:LE 1:XX 5:LE 1:XX 18:LE
  1:XX 1:LE 1:XX a:LE 1:EX 2:LE 9:EX 1:LE 2:XX 5:LE 1:XX 1:LE 1:XX 7:EX 1:XX a:NU 2:XX 4:LE 20:XX
  1:LE 17:XX 2:EX 6:XX a:NU b:XX 1:EX 1:XX 1:EX 1:XX 1:EX 4:CL 2:EX 8:LE 1:XX 24:LE 4:XX 14:EX
  1:XX 2:EX 5:LE b:EX 1:XX 24:EX 9:XX 1:EX 39:XX 2b:LE 14:EX 1:LE a:NU 2:ST 4:XX 6:LE 4:EX 4:LE
  3:EX 1:LE 3:EX 2:LE 7:EX 3:LE 4:EX d:LE c:EX 1:LE 1:EX a:NU 4:EX 2:XX 26:UP 1:XX 1:UP 5:XX 1:UP
  2:XX 2b:LE 1:XX 1:LO 14c:LE 1:XX 4:LE 2:XX 7:LE 1:XX 1:LE 1:XX 4:LE 2:XX 29:LE 1:XX 4:LE 2:XX
  21:LE 1:XX 4:LE 2:XX 7:LE 1:XX 1:LE 1:XX 4:LE 2:XX f:LE 1:XX 39:LE 1:XX 4:LE 2:XX 43:LE 2:XX
  3:EX 2:XX 1:ST 4:XX 2:ST 17:XX 10:LE 10:XX 56:UP 2:XX 6:LO 3:XX 26c:LE 1:XX 1:ST 11:LE 1:SP
  1a:LE 2:CL 3:XX 4b:LE 3:XX b:LE 7:XX 12:LE 4:EX 9:XX 13:LE 3:EX 2:ST 9:XX 12:LE 2:EX c:XX d:LE
  1:XX 3:LE 1:XX 2:EX c:XX 34:LE 20:EX 2:ST 1:XX 1:LE 4:XX 1:LE 1:EX 2:XX a:NU 18:XX 1:SC 1:ST
  4:XX 1:SC 1:ST 1:XX 3:EX 1:FO 1:EX a:NU 6:XX 59:LE 7:XX 5:LE 2:EX 22:LE 1:EX 1:LE 5:XX 46:LE
  a:XX 1f:LE 1:XX c:EX 4:XX c:EX 8:XX 2:ST a:NU 1e:LE 2:XX 5:LE b:XX 2c:LE 4:XX 1a:LE 6:XX b:NU
  25:XX 17:LE 5:EX 4:XX 35:LE a:EX 1:XX 1d:EX 2:XX 1:EX a:NU 6:XX a:NU d:XX 1:LE 4:ST 4:XX 1f:EX
  31:XX 5:EX 2f:LE 11:EX 8:LE 1:XX 2:ST a:NU 2:ST 2:XX 2:ST b:XX 9:EX 9:XX 3:ST 3:EX 1e:LE d:EX
  2:LE a:NU 2c:LE e:EX c:XX 24:LE 14:EX 3:XX 2:ST 3:XX a:NU 3:XX 3:LE a:NU 24:LE 2:ST 9:LO 1:UP
  1:LO 5:XX 2b:LE 2:XX 3:LE 10:XX 3:EX 1:XX 15:EX 4:LE 1:EX 6:LE 1:EX 2:LE 3:EX 1:LE 5:XX c0:LO
  40:EX 1:UP 1:LO 1:UP 1:LO 1:UP 1:LO 1:UP 1:LO 1:UP 1:LO 1:UP 1:LO 1:UP 1:LO 1:UP 1:LO 1:UP 1:LO
  1:UP 1:LO 1:UP 1:LO 1:UP 1:LO 1:UP 1:LO 1:UP 1:LO 1:UP 1:LO 1:UP 1:LO 1:UP 1:LO 1:UP 1:LO 1:UP
  1:LO 1:UP 1:LO 1:UP 1:LO 1:UP 1:LO 1:UP 1:LO 1:UP 1:LO 1:UP 1:LO 1:UP 1:LO 1:UP 1:LO 1:UP 1:LO
  1:UP 1:LO 1:UP 1:LO 1:UP 1:LO 1:UP 1:LO 1:UP 1:LO 1:UP 1:LO 1:UP 1:LO 1:UP 1:LO 1:UP 1:LO 1:UP
  1:LO 1:UP 1:LO 1:UP 1:LO 1:UP 1:LO 1:UP 1:LO 1:UP 1:LO 1:UP 1:LO 1:UP 1:LO 1:UP 1:LO 1:UP 1:LO
  1:UP 1:LO 1:UP 1:LO 1:UP 1:LO 1:UP 1:LO 1:UP 1:LO 1:UP 1:LO 1:UP 1:LO 1:UP 1:LO 1:UP 1:LO 1:UP
  1:LO 1:UP 1:LO 1:UP 1:LO 1:UP 1:LO 1:UP 1:LO 1:UP 1:LO 1:UP 1:LO 1:UP 1:LO 1:UP 1:LO 1:UP 1:LO
  1:UP 1:LO 1:UP 1:LO 1:UP 1:LO 1:UP 1:LO 1:UP 1:LO 1:UP 1:LO 1:UP 1:LO 1:UP 1:LO 1:UP 9:LO 1:UP
  1:LO 1:UP 1:LO 1:UP 1:LO 1:UP 1:LO 1:UP 1:LO 1:UP 1:LO 1:UP 1:LO 1:UP 1:LO 1:UP 1:LO 1:UP 1:LO
  1:UP 1:LO 1:UP 1:LO 1:UP 1:LO 1:UP 1:LO 1:UP 1:LO 1:UP 1:LO 1:UP 1:LO 1:UP 1:LO 1:UP 1:LO 1:UP
  1:LO 1:UP 1:LO 1:UP 1:LO 1:UP 1:LO 1:UP 1:LO 1:UP 1:LO 1:UP 1:LO 1:UP 1:LO 1:UP 1:LO 1:UP 1:LO
  1:UP 1:LO 1:UP 1:LO 1:UP 1:LO 1:UP 1:LO 1:UP 1:LO 1:UP 1:LO 1:UP 1:LO 1:UP 1:LO 1:UP 1:LO 1:UP
  1:LO 1:UP 1:LO 1:UP 1:LO 1:UP 1:LO 1:UP 1:LO 1:UP 1:LO 1:UP 1:LO 1:UP 1:LO 1:UP 1:LO 1:UP 1:LO
  1:UP 9:LO 8:UP 6:LO 2:XX 6:UP 2:XX 8:LO 8:UP 8:LO 8:UP 6:LO 2:XX 6:UP 2:XX 8:LO 1:XX 1:UP 1:XX
  1:UP 1:XX 1:UP 1:XX 1:UP 8:LO 8:UP e:LO 2:XX 8:LO 8:UP 8:LO 8:UP 8:LO 8:UP 5:LO 1:XX 2:LO 5:UP
  1:XX 1:LO 3:XX 3:LO 1:XX 2:LO 5:UP 3:XX 4:LO 2:XX 2:LO 4:UP 4:XX 8:LO 5:UP 5:XX 3:LO 1:XX 2:LO
  5:UP 3:XX b:SP 1:FO 2:EX 2:FO 3:XX 2:SC 3:XX 8:CL 4:XX 1:AT 3:XX 2:SE 5:FO 1:SP 9:XX 2:CL 1:XX
  2:ST 7:XX 2:CL 3:ST 15:XX 1:SP 5:FO 1:XX a:FO 1:XX 1:LO b:XX 2:CL 1:LO d:XX 2:CL 1:XX d:LO
  33:XX 21:EX 11:XX 1:UP 4:XX 1:UP 2:XX 1:LO 3:UP 2:LO 3:UP 1:LO 1:XX 1:UP 3:XX 5:UP 6:XX 1:UP
  1:XX 1:UP 1:XX 1:UP 1:XX 4:UP 1:XX 1:LO 4:UP 1:LO 4:LE 1:LO 2:XX 2:LO 2:UP 5:XX 1:UP 4:LO 4:XX
  1:LO 11:XX 10:UP 10:LO 3:LE 1:UP 1:LO 4:LE 17f:XX 4:CL 1d:XX 2:CL 18b:XX 1a:UP 1a:LO 271:XX
  6:CL 7:XX e:CL 4f:XX 2:CL 1f:XX a:CL 193:XX 16:CL 3f:XX 4:CL 20:XX 2:CL 202:XX 30:UP 30:LO 1:UP
  1:LO 3:UP 2:LO 1:UP 1:LO 1:UP 1:LO 1:UP 1:LO 4:UP 1:LO 1:UP 2:LO 1:UP 8:LO 3:UP 1:LO 1:UP 1:LO
  1:UP 1:LO 1:UP 1:LO 1:UP 1:LO 1:UP 1:LO 1:UP 1:LO 1:UP 1:LO 1:UP 1:LO 1:UP 1:LO 1:UP 1:LO 1:UP
  1:LO 1:UP 1:LO 1:UP 1:LO 1:UP 1:LO 1:UP 1:LO 1:UP 1:LO 1:UP 1:LO 1:UP 1:LO 1:UP 1:LO 1:UP 1:LO
  1:UP 1:LO 1:UP 1:LO 1:UP 1:LO 1:UP 1:LO 1:UP 1:LO 1:UP 1:LO 1:UP 1:LO 1:UP 1:LO 1:UP 1:LO 1:UP
  1:LO 1:UP 1:LO 1:UP 1:LO 1:UP 1:LO 1:UP 1:LO 1:UP 1:LO 1:UP 1:LO 1:UP 1:LO 1:UP 1:LO 1:UP 1:LO
  1:UP 1:LO 1:UP 1:LO 1:UP 1:LO 1:UP 1:LO 1:UP 1:LO 1:UP 1:LO 1:UP 1:LO 1:UP 1:LO 1:UP 1:LO 1:UP
  2:LO 6:XX 1:UP 1:LO 1:UP 1:LO 3:EX 1:UP 1:LO 5:XX 3:ST 4:XX 26:LO 1:XX 1:LO 5:XX 1:LO 2:XX
  38:LE 7:XX 1:LE f:XX 1:EX 17:LE 9:XX 7:LE 1:XX 7:LE 1:XX 7:LE 1:XX 7:LE 1:XX 7:LE 1:XX 7:LE
  1:XX 7:LE 1:XX 7:LE 1:XX 20:EX e:CL e:XX 2:CL 2:XX a:CL 4:XX 1:ST 1:LE c:XX 1:ST 5:XX 1:CL
  10:XX 2:ST 8:CL 1a3:XX 1:SP 1:SC 1:ST 2:XX 3:LE a:CL 2:XX 8:CL 1:XX 3:CL 1:XX 9:LE 6:EX 1:XX
  5:LE 2:XX 5:LE 4:XX 56:LE 2:XX 2:EX 2:XX 3:LE 1:XX 5a:LE 1:XX 4:LE 5:XX 2b:LE 1:XX 5e:LE 11:XX
  20:LE 30:XX 10:LE 200:XX 19c0:LE 40:XX 568d:LE 43:XX 2e:LE 1:XX 1:ST 10d:LE 1:XX 2:ST 10:LE
  a:NU 2:LE 14:XX 1:UP 1:LO 1:UP 1:LO 1:UP 1:LO 1:UP 1:LO 1:UP 1:LO 1:UP 1:LO 1:UP 1:LO 1:UP 1:LO
  1:UP 1:LO 1:UP 1:LO 1:UP 1:LO 1:UP 1:LO 1:UP 1:LO 1:UP 1:LO 1:UP 1:LO 1:UP 1:LO 1:UP 1:LO 1:UP
  1:LO 1:UP 1:LO 1:UP 1:LO 1:UP 1:LO 1:UP 1:LO 1:UP 1:LO 1:LE 4:EX 1:XX a:EX 1:XX 1:LE 1:UP 1:LO
  1:UP 1:LO 1:UP 1:LO 1:UP 1:LO 1:UP 1:LO 1:UP 1:LO 1:UP 1:LO 1:UP 1:LO 1:UP 1:LO 1:UP 1:LO 1:UP
  1:LO 1:UP 1:LO 1:UP 1:LO 1:UP 3:LO 2:EX 50:LE 2:EX 1:XX 1:ST 3:XX 1:ST 1f:XX 9:LE 2:XX 1:UP
  1:LO 1:UP 1:LO 1:UP 1:LO 1:UP 1:LO 1:UP 1:LO 1:UP 1:LO 1:UP 3:LO 1:UP 1:LO 1:UP 1:LO 1:UP 1:LO
  1:UP 1:LO 1:UP 1:LO 1:UP 1:LO 1:UP 1:LO 1:UP 1:LO 1:UP 1:LO 1:UP 1:LO 1:UP 1:LO 1:UP 1:LO 1:UP
  1:LO 1:UP 1:LO 1:UP 1:LO 1:UP 1:LO 1:UP 1:LO 1:UP 1:LO 1:UP 1:LO 1:UP 1:LO 1:UP 1:LO 1:UP 1:LO
  1:UP 1:LO 1:UP 1:LO 1:UP 1:LO 1:UP 1:LO 1:UP 1:LO 1:UP 1:LO 1:UP 1:LO 1:UP 1:LO 1:UP a:LO 1:UP
  1:LO 1:UP 1:LO 2:UP 1:LO 1:UP 1:LO 1:UP 1:LO 1:UP 1:LO 1:UP 1:LO 1:LE 2:XX 1:UP 1:LO 1:UP 1:LO
  1:LE 1:UP 1:LO 1:UP 3:LO 1:UP 1:LO 1:UP 1:LO 1:UP 1:LO 1:UP 1:LO 1:UP 1:LO 1:UP 1:LO 1:UP 1:LO
  1:UP 1:LO 1:UP 1:LO 1:UP 1:LO 5:UP 1:LO 5:UP 1:LO 1:UP 1:LO 1:UP 1:LO 1:UP 1:LO 1:UP 1:LO 1:UP
  1:LO 1:UP 1:LO 1:UP 1:LO 4:UP 1:LO 1:UP 1:LO 2:UP 1:LO 2:XX 1:UP 1:LO 1:XX 1:LO 1:XX 1:LO 1:UP
  1:LO 1:UP 1:LO 1:UP 1:LO 1:UP 15:XX 3:LO 1:UP 1:LO 1:LE 3:LO 7:LE 1:EX 3:LE 1:EX 4:LE 1:EX
  17:LE 5:EX 4:XX 1:EX 13:XX 34:LE 2:XX 2:ST 8:XX 2:EX 32:LE 12:EX 8:XX 2:ST a:NU 6:XX 12:EX 6:LE
  3:XX 1:LE 1:XX 2:LE 1:EX a:NU 1c:LE 8:EX 1:XX 1:ST 17:LE d:EX c:XX 1d:LE 3:XX 4:EX 2f:LE e:EX
  7:XX 2:ST 5:XX 1:LE a:NU 6:XX 5:LE 1:EX a:LE a:NU 5:LE 1:XX 29:LE e:EX 9:XX 3:LE 1:EX 8:LE 2:EX
  2:XX a:NU 3:XX 3:ST 17:LE 3:XX 1:LE 3:EX 32:LE 1:EX 1:LE 3:EX 2:LE 2:EX 5:LE 2:EX 1:LE 1:EX
  1:LE 18:XX 3:LE 2:XX b:LE 5:EX 2:ST 3:LE 2:EX a:XX 6:LE 2:XX 6:LE 2:XX 6:LE 9:XX 7:LE 1:XX 7:LE
  1:XX 2b:LO 1:XX e:LO 6:XX 50:LO 23:LE 8:EX 1:ST 2:EX 2:XX a:NU 6:XX 2ba4:LE c:XX 17:LE 4:XX
  31:LE 2104:XX 16e:LE 2:XX 6a:LE 26:XX 7:LO c:XX 5:LO 5:XX 1:LE 1:EX a:LE 1:XX d:LE 1:XX 5:LE
  1:XX 1:LE 1:XX 2:LE 1:XX 2:LE 1:XX 6c:LE 21:XX 16b:LE 2:CL 10:XX 40:LE 2:XX 36:LE 28:XX c:LE
  4:XX 10:EX 2:SC 1:ST 2:SC 2:ST 2:CL 7:XX 10:EX 1:XX 2:SC 2:XX 10:CL 2:XX 2:CL 7:XX 2:SC 1:AT
  1:XX 2:SC 2:ST 1:SC 6:CL 4:XX 1:SC c:XX 5:LE 1:XX 87:LE 2:XX 1:FO 1:XX 1:ST 6:XX 2:CL 2:XX 2:SC
  1:AT 1:XX a:NU 2:SC 3:XX 1:ST 1:XX 1a:UP 1:CL 1:XX 1:CL 3:XX 1a:LO 1:CL 1:XX 1:CL 1:XX 2:CL
  1:ST 2:CL 1:SC 1:XX 38:LE 2:EX 1f:LE 3:XX 6:LE 2:XX 6:LE 2:XX 6:LE 2:XX 3:LE 1c:XX 3:FO 4:XX
  c:LE 1:XX 1a:LE 1:XX 13:LE 1:XX 2:LE 1:XX f:LE 2:XX e:LE 22:XX 7b:LE 45:XX 35:LE 88:XX 1:EX
  82:XX 1d:LE 3:XX 31:LE f:XX 1:EX 1f:XX 20:LE d:XX 1e:LE 5:XX 26:LE 5:EX 5:XX 1e:LE 2:XX 24:LE
  4:XX 8:LE 1:XX 5:LE 2a:XX 28:UP 28:LO 4e:LE 2:XX a:NU 6:XX 24:UP 4:XX 24:LO 4:XX 28:LE 8:XX
  34:LE c:XX b:UP 1:XX f:UP 1:XX 7:UP 1:XX 2:UP 1:XX b:LO 1:XX f:LO 1:XX 7:LO 1:XX 2:LO 3:XX
  34:LE c:XX 137:LE 9:XX 16:LE a:XX 8:LE 18:XX 1:LO 2:LE 3:LO 1:XX 2a:LO 1:XX 9:LO 45:XX 6:LE
  2:XX 1:LE 1:XX 2c:LE 1:XX 2:LE 3:XX 1:LE 2:XX 17:LE a:XX 17:LE 9:XX 1f:LE 41:XX 13:LE 1:XX 2:LE
  a:XX 16:LE a:XX 1a:LE 46:XX 38:LE 6:XX 2:LE 40:XX 1:LE 3:EX 1:XX 2:EX 5:XX 4:EX 4:LE 1:XX 3:LE
  1:XX 1d:LE 2:XX 3:EX 4:XX 1:EX 16:XX 2:ST 8:XX 1d:LE 3:XX 1d:LE 23:XX 8:LE 1:XX 1c:LE 2:EX
  19:XX 36:LE a:XX 16:LE a:XX 13:LE d:XX 12:LE 6e:XX 49:LE 37:XX 33:UP d:XX 33:LO d:XX 24:LE 4:EX
  8:XX a:NU 6:XX a:NU 6:LE 16:UP 3:XX 5:EX 1:XX 1:LE 16:LO fa:XX 2a:LE 1:XX 2:EX 3:XX 2:LE 10:XX
  3:LE 37:XX 4:EX 1d:LE a:XX 1:LE 8:XX 16:LE b:EX 4:XX 5:ST 16:XX 12:LE 4:EX 4:ST 26:XX 15:LE
  1b:XX 17:LE 9:XX 3:EX 35:LE f:EX 2:ST 1d:XX a:NU 1:EX 2:LE 2:EX 1:LE 9:XX 4:EX 2d:LE b:EX 2:XX
  1:NU 4:ST 1:EX a:XX 1:NU 2:XX 19:LE 7:XX a:NU 6:XX 3:EX 24:LE e:EX 1:XX a:NU 1:XX 3:ST 1:LE
  2:EX 1:LE 8:XX 23:LE 1:EX 2:XX 1:LE 9:XX 3:EX 30:LE e:EX 4:LE 2:ST 2:XX 4:EX 1:ST 2:EX a:NU
  1:LE 1:XX 1:LE 1:XX 2:ST 20:XX 12:LE 1:XX 19:LE c:EX 2:ST 1:XX 2:ST 1:XX 1:EX 2:LE 1:EX 3e:XX
  7:LE 1:XX 1:LE 1:XX 4:LE 1:XX f:LE 1:XX a:LE 1:ST 6:XX 2f:LE c:EX 5:XX a:NU 6:XX 4:EX 1:XX 8:LE
  2:XX 2:LE 2:XX 16:LE 1:XX 7:LE 1:XX 2:LE 1:XX 5:LE 1:XX 2:EX 1:LE 7:EX 2:XX 2:EX 2:XX 3:EX 2:XX
  1:LE 6:XX 1:EX 5:XX 5:LE 2:EX 2:XX 7:EX 3:XX 5:EX b:XX a:LE 1:XX 1:LE 2:XX 1:LE 1:XX 26:LE 1:XX
  1:LE 9:EX 1:XX 1:EX 2:XX 1:EX 1:XX 4:EX 1:XX 5:EX 1:LE 1:EX 1:LE 2:ST b:XX 2:EX 1d:XX 35:LE
  12:EX 4:LE 2:ST 3:XX a:NU 4:XX 1:EX 3:LE 1e:XX 30:LE 14:EX 2:LE 1:XX 1:LE 8:XX a:NU a6:XX 2f:LE
  7:EX 2:XX 9:EX 1:XX 2:ST 5:XX f:ST 4:LE 2:EX 22:XX 30:LE 11:EX 2:ST 1:XX 1:LE b:XX a:NU 26:XX
  2b:LE d:EX 1:LE 7:XX a:NU 6:XX 14:NU 1c:XX 1b:LE 2:XX f:EX 4:XX a:NU 2:XX 3:ST 1:XX 7:LE b9:XX
  2c:LE f:EX 65:XX 20:UP 20:LO a:NU 15:XX 8:LE 2:XX 1:LE 2:XX 8:LE 1:XX 2:LE 1:XX 18:LE 6:EX 1:XX
  2:EX 2:XX 4:EX 1:LE 1:EX 1:LE 2:EX 1:ST 1:XX 1:ST 9:XX a:NU 46:XX 8:LE 2:XX 27:LE 7:EX 2:XX
  7:EX 1:LE 1:XX 1:LE 1:EX 1b:XX 1:LE a:EX 28:LE 7:EX 1:LE 4:EX 3:XX 2:ST 3:XX 1:EX 8:XX 1:LE
  b:EX 2e:LE 10:EX 1:XX 2:ST 1:LE 12:XX 49:LE c7:XX 21:LE f:XX a:NU 6:XX 9:LE 1:XX 25:LE 8:EX
  1:XX 8:EX 1:LE 2:ST d:XX a:NU 18:XX 1e:LE 2:XX 16:EX 1:XX e:EX 49:XX 7:LE 1:XX 2:LE 1:XX 26:LE
  6:EX 3:XX 1:EX 1:XX 2:EX 1:XX 7:EX 1:LE 1:EX 8:XX a:NU 6:XX 6:LE 1:XX 2:LE 1:XX 20:LE 5:EX 1:XX
  2:EX 1:XX 5:EX 1:LE 7:XX a:NU 136:XX 13:LE 4:EX 2:ST 7:XX 2:EX 1:LE 1:EX d:LE 1:XX 22:LE 7:EX
  3:XX 5:EX 2:ST b:XX a:NU 1:EX 55:XX 1:LE 4f:XX 39a:LE 66:XX 6f:LE 11:XX c4:LE a4c:XX 61:LE f:XX
  430:LE 10:FO 1:EX 6:LE f:EX a:XX f9b:LE 5:XX 247:LE 1ab9:XX 1e:LE 12:EX a:NU 6c6:XX 239:LE 7:XX
  1f:LE 1:XX a:NU 4:XX 2:ST 4f:LE 1:XX a:NU 6:XX 1e:LE 2:XX 5:EX 1:ST a:XX 30:LE 7:EX 2:ST 7:XX
  4:LE 1:ST b:XX a:NU 9:XX 15:LE 5:XX 13:LE 1b0:XX 2d:LE 1:XX 2:ST a:NU c6:XX 20:UP 20:LO 18:XX
  1:ST 67:XX 4b:LE 4:XX 1:EX 1:LE 37:EX 7:XX 4:EX d:LE 40:XX 2:LE 1:XX 1:LE 1:EX b:XX 2:EX e:XX
  17f8:LE 8:XX 4d6:LE 29:XX a:LE 22e7:XX 4:LE 1:XX 7:LE 1:XX 2:LE 1:XX 123:LE f:XX 1:LE 1d:XX
  3:LE 2:XX 1:LE e:XX 4:LE 8:XX 18c:LE 904:XX 6b:LE 5:XX d:LE 3:XX 9:LE 7:XX a:LE 3:XX 2:EX 1:ST
  4:FO 104c:XX a:NU 206:XX 2e:EX 2:XX 17:EX 21e:XX 5:EX 3:XX 6:EX 8:FO 8:EX 2:XX 7:EX 1e:XX 4:EX
  94:XX 3:EX 1bb:XX 1a:UP 1a:LO 1a:UP 7:LO 1:XX 12:LO 1a:UP 1a:LO 1:UP 1:XX 2:UP 2:XX 1:UP 2:XX
  2:UP 2:XX 4:UP 1:XX 8:UP 4:LO 1:XX 1:LO 1:XX 7:LO 1:XX b:LO 1a:UP 1a:LO 2:UP 1:XX 4:UP 2:XX
  8:UP 1:XX 7:UP 1:XX 1a:LO 2:UP 1:XX 4:UP 1:XX 5:UP 1:XX 1:UP 3:XX 7:UP 1:XX 1a:LO 1a:UP 1a:LO
  1a:UP 1a:LO 1a:UP 1a:LO 1a:UP 1a:LO 1a:UP 1a:LO 1a:UP 1c:LO 2:XX 19:UP 1:XX 19:LO 1:XX 6:LO
  19:UP 1:XX 19:LO 1:XX 6:LO 19:UP 1:XX 19:LO 1:XX 6:LO 19:UP 1:XX 19:LO 1:XX 6:LO 19:UP 1:XX
  19:LO 1:XX 6:LO 1:UP 1:LO 2:XX 32:NU 200:XX 37:EX 4:XX 32:EX 8:XX 1:EX e:XX 1:EX 3:XX 1:ST
  12:XX 5:EX 1:XX f:EX 450:XX a:LO 1:LE 14:LO 6:XX 6:LO d5:XX 7:EX 1:XX 11:EX 2:XX 7:EX 1:XX 2:EX
  1:XX 5:EX 5:XX 3e:LO 21:XX 1:EX 70:XX 2d:LE 3:XX 7:EX 7:LE 2:XX a:NU 4:XX 1:LE 141:XX 1e:LE
  1:EX 11:XX 2c:LE 4:EX a:NU 1d6:XX 1c:LE 4:EX a:NU d6:XX 1e:LE 2:EX 1:LE a:NU 1e5:XX 7:LE 1:XX
  4:LE 1:XX 2:LE 1:XX f:LE 1:XX c5:LE b:XX 7:EX 29:XX 22:UP 22:LO 7:EX 1:LE 4:XX a:NU 4a6:XX 4:LE
  1:XX 1b:LE 1:XX 2:LE 1:XX 1:LE 2:XX 1:LE 1:XX a:LE 1:XX 4:LE 1:XX 1:LE 1:XX 1:LE 6:XX 1:LE 4:XX
  1:LE 1:XX 1:LE 1:XX 1:LE 1:XX 3:LE 1:XX 2:LE 1:XX 1:LE 2:XX 1:LE 1:XX 1:LE 1:XX 1:LE 1:XX 1:LE
  1:XX 1:LE 1:XX 2:LE 1:XX 1:LE 2:XX 4:LE 1:XX 7:LE 1:XX 4:LE 1:XX 4:LE 1:XX 1:LE 1:XX a:LE 1:XX
  11:LE 5:XX 3:LE 1:XX 5:LE 1:XX 11:LE 274:XX 1a:UP 6:XX 1a:UP 6:XX 1a:UP 4ec:XX 3:CL 577:XX a:NU
  406:XX a6e0:LE 20:XX 103a:LE 6:XX de:LE 2:XX 1682:LE e:XX 1d31:LE f:XX 26e:LE 9a2:XX 21e:LE
  5e2:XX 134b:LE 5:XX 1060:LE adc51:XX 1:FO 1e:XX 60:EX 80:XX f0:EX 2fe10:XX"

end InvertedIndex.Unicode.Break
