import InvertedIndex.Unicode.Partition

namespace InvertedIndex.Unicode.Age

def versions : List String := [
  "1.1", "2.0", "2.1", "3.0", "3.1", "3.2", "4.0", "4.1", "5.0", "5.1", "5.2", "6.0", "6.1",
  "6.2", "6.3", "7.0", "8.0", "9.0", "10.0", "11.0", "12.0", "12.1", "13.0", "14.0", "15.0",
  "15.1", "16.0"]

/-- Every name in lower case, without blanks, hyphens and underscores, with its version. -/
def named : List (String × String) := [
  ("1.1", "1.1"), ("v11", "1.1"), ("2.0", "2.0"), ("v20", "2.0"), ("2.1", "2.1"), ("v21", "2.1"),
  ("3.0", "3.0"), ("v30", "3.0"), ("3.1", "3.1"), ("v31", "3.1"), ("3.2", "3.2"), ("v32", "3.2"),
  ("4.0", "4.0"), ("v40", "4.0"), ("4.1", "4.1"), ("v41", "4.1"), ("5.0", "5.0"), ("v50", "5.0"),
  ("5.1", "5.1"), ("v51", "5.1"), ("5.2", "5.2"), ("v52", "5.2"), ("6.0", "6.0"), ("v60", "6.0"),
  ("6.1", "6.1"), ("v61", "6.1"), ("6.2", "6.2"), ("v62", "6.2"), ("6.3", "6.3"), ("v63", "6.3"),
  ("7.0", "7.0"), ("v70", "7.0"), ("8.0", "8.0"), ("v80", "8.0"), ("9.0", "9.0"), ("v90", "9.0"),
  ("10.0", "10.0"), ("v100", "10.0"), ("11.0", "11.0"), ("v110", "11.0"), ("12.0", "12.0"),
  ("v120", "12.0"), ("12.1", "12.1"), ("v121", "12.1"), ("13.0", "13.0"), ("v130", "13.0"),
  ("14.0", "14.0"), ("v140", "14.0"), ("15.0", "15.0"), ("v150", "15.0"), ("15.1", "15.1"),
  ("v151", "15.1"), ("16.0", "16.0"), ("v160", "16.0")]

/-- The version of the standard in which each code point was first assigned. -/
def runs : Partition := .parse
  "1f6:1.1 4:3.0 1e:1.1 8:3.0 1:3.2 1:4.0 12:3.0 3:4.0 b:4.1 e:5.0 59:1.1 5:3.0 2:4.0 2f:1.1 1:3.0
  a:1.1 5:3.0 11:4.0 46:1.1 9:3.0 1:3.2 8:4.0 5:4.1 3:4.0 2:1.1 1:3.0 d:3.2 4:5.1 2:1.1 2:5.1
  2:na 1:1.1 3:5.0 1:1.1 1:7.0 4:na 7:1.1 1:na 1:1.1 1:na 14:1.1 1:na 2c:1.1 1:5.1 7:1.1 1:3.0
  2:3.2 1:1.1 1:3.0 1:1.1 1:3.0 1:1.1 1:3.0 1:1.1 1:3.0 12:1.1 2:3.1 1:3.2 5:4.0 4:4.1 1:3.0
  c:1.1 1:3.0 42:1.1 1:3.0 c:1.1 1:3.0 29:1.1 1:5.1 2:3.0 2:3.2 4:3.0 35:1.1 2:3.2 2:1.1 2:3.2
  2:1.1 2:3.2 1:5.0 1c:1.1 2:3.0 8:1.1 2:4.1 2:1.1 6:5.0 10:3.2 4:5.0 10:5.1 2:5.2 2:6.0 8:7.0
  1:na 26:1.1 2:na 7:1.1 1:11.0 27:1.1 1:11.0 1:1.1 1:3.0 2:na 2:7.0 1:6.1 1:na 11:2.0 1:4.1
  d:2.0 a:1.1 1:5.0 9:1.1 1:2.0 3:4.1 8:na 1b:1.1 4:na 1:11.0 5:1.1 b:na 4:4.0 1:6.1 1:7.0 5:5.1
  1:4.1 1:1.1 9:4.0 5:5.1 1:1.1 1:6.3 1:14.0 1:4.1 1:1.1 1:6.0 1a:1.1 5:5.1 13:1.1 3:3.0 3:4.0
  6:4.1 1:6.0 e:1.1 2:3.2 48:1.1 2:3.0 5:1.1 1:3.0 f:1.1 1:3.0 1e:1.1 2:4.0 a:1.1 5:3.0 1:4.0
  e:3.0 1:na 1e:3.0 3:4.0 1b:3.0 2:na 3:4.0 1e:4.1 12:5.1 31:3.0 1:3.2 e:na 3b:5.0 2:na 3:11.0
  2e:5.2 2:na f:5.2 1:na 1c:6.0 2:na 1:6.0 1:na b:10.0 5:na 1f:14.0 1:na 2:14.0 5:na 1:16.0
  8:14.0 1:6.1 1:7.0 b:6.1 6:7.0 2:8.0 1:14.0 8:9.0 a:13.0 b:14.0 1:11.0 f:9.0 1:8.0 1b:6.1 1:7.0
  1:5.2 3:1.1 1:4.0 35:1.1 2:6.0 12:1.1 1:5.2 1:6.0 5:1.1 1:5.2 2:6.0 19:1.1 2:5.1 5:6.0 1:7.0
  2:5.2 2:5.0 1:4.1 2:5.0 1:7.0 3:1.1 1:na 8:1.1 2:na 2:1.1 2:na 16:1.1 1:na 7:1.1 1:na 1:1.1
  3:na 4:1.1 2:na 1:1.1 1:4.0 7:1.1 2:na 2:1.1 2:na 3:1.1 1:4.1 8:na 1:1.1 4:na 2:1.1 1:na 5:1.1
  2:na 15:1.1 1:5.2 2:10.0 1:11.0 2:na 1:4.0 1:1.1 1:4.0 1:na 6:1.1 4:na 2:1.1 2:na 16:1.1 1:na
  7:1.1 1:na 2:1.1 1:na 2:1.1 1:na 2:1.1 2:na 1:1.1 1:na 5:1.1 4:na 2:1.1 2:na 3:1.1 3:na 1:5.1
  7:na 4:1.1 1:na 1:1.1 7:na f:1.1 1:5.1 1:11.0 a:na 3:1.1 1:na 7:1.1 1:4.0 1:1.1 1:na 3:1.1 1:na
  16:1.1 1:na 7:1.1 1:na 2:1.1 1:na 5:1.1 2:na a:1.1 1:na 3:1.1 1:na 3:1.1 2:na 1:1.1 f:na 1:1.1
  3:4.0 2:na a:1.1 1:6.1 1:4.0 7:na 1:8.0 6:10.0 1:na 3:1.1 1:na 8:1.1 2:na 2:1.1 2:na 16:1.1
  1:na 7:1.1 1:na 2:1.1 1:na 1:4.0 4:1.1 2:na 8:1.1 1:5.1 2:na 2:1.1 2:na 3:1.1 7:na 1:13.0 2:1.1
  4:na 2:1.1 1:na 3:1.1 2:5.1 2:na b:1.1 1:4.0 6:6.0 a:na 2:1.1 1:na 6:1.1 3:na 3:1.1 1:na 4:1.1
  3:na 2:1.1 1:na 1:1.1 1:na 2:1.1 3:na 2:1.1 3:na 3:1.1 3:na 8:1.1 1:4.1 3:1.1 4:na 5:1.1 3:na
  3:1.1 1:na 4:1.1 2:na 1:5.1 6:na 1:1.1 e:na 1:4.1 c:1.1 8:4.0 5:na 1:7.0 3:1.1 1:11.0 8:1.1
  1:na 3:1.1 1:na 17:1.1 1:na a:1.1 1:7.0 5:1.1 2:na 1:14.0 1:5.1 7:1.1 1:na 3:1.1 1:na 4:1.1
  7:na 2:1.1 1:na 2:5.1 1:8.0 2:na 1:14.0 2:na 2:1.1 2:5.1 2:na a:1.1 7:na 1:12.0 8:5.1 1:9.0
  1:7.0 2:1.1 1:11.0 8:1.1 1:na 3:1.1 1:na 17:1.1 1:na a:1.1 1:na 5:1.1 2:na 2:4.0 7:1.1 1:na
  3:1.1 1:na 4:1.1 7:na 2:1.1 6:na 1:14.0 1:1.1 1:na 2:1.1 2:5.0 2:na a:1.1 1:na 2:5.0 1:15.0
  c:na 1:10.0 1:7.0 2:1.1 1:13.0 8:1.1 1:na 3:1.1 1:na 17:1.1 1:6.0 10:1.1 1:6.0 2:10.0 1:5.1
  6:1.1 1:5.1 1:na 3:1.1 1:na 4:1.1 1:6.0 1:9.0 4:na 3:9.0 1:1.1 7:9.0 1:8.0 2:1.1 2:5.1 2:na
  a:1.1 6:5.1 3:9.0 7:5.1 1:na 1:13.0 2:3.0 1:na 12:3.0 3:na 18:3.0 1:na 9:3.0 1:na 1:3.0 2:na
  7:3.0 3:na 1:3.0 4:na 6:3.0 1:na 1:3.0 1:na 8:3.0 6:na a:7.0 2:na 3:3.0 c:na 3a:1.1 4:na 1d:1.1
  25:na 2:1.1 1:na 1:1.1 1:na 1:12.0 2:1.1 1:12.0 1:1.1 1:na 1:12.0 1:1.1 6:12.0 4:1.1 1:12.0
  7:1.1 1:12.0 3:1.1 1:na 1:1.1 1:na 1:1.1 2:12.0 2:1.1 1:12.0 d:1.1 1:12.0 3:1.1 2:na 5:1.1 1:na
  1:1.1 1:na 6:1.1 1:15.0 1:na a:1.1 2:na 2:1.1 2:6.1 20:na 48:2.0 1:na 21:2.0 1:3.0 2:5.1 4:na
  1b:2.0 4:6.0 6:2.0 1:3.0 1:2.0 1:na 15:2.0 3:3.0 7:2.0 1:3.0 1:2.0 3:3.0 1:na f:3.0 1:na 1:5.1
  1:3.0 2:4.1 3:5.1 4:5.2 2:6.0 25:na 22:3.0 1:5.1 5:3.0 1:5.1 2:3.0 1:5.1 7:3.0 3:5.1 4:3.0
  6:5.1 1a:3.0 40:5.1 4:5.2 2:5.1 26:1.1 1:na 1:6.1 5:na 1:6.1 2:na 27:1.1 2:3.2 2:4.1 1:1.1
  1:4.1 3:6.1 5a:1.1 5:5.2 44:1.1 5:5.2 52:1.1 6:5.2 7:3.0 1:4.1 3f:3.0 1:4.1 1:3.0 1:na 4:3.0
  2:na 7:3.0 1:na 1:3.0 1:na 4:3.0 2:na 27:3.0 1:4.1 1:3.0 1:na 4:3.0 2:na 1f:3.0 1:4.1 1:3.0
  1:na 4:3.0 2:na 7:3.0 1:na 1:3.0 1:na 4:3.0 2:na 7:3.0 1:4.1 7:3.0 1:na 17:3.0 1:4.1 1f:3.0
  1:4.1 1:3.0 1:na 4:3.0 2:na 7:3.0 1:4.1 27:3.0 1:4.1 13:3.0 2:na 2:6.0 2:4.1 1c:3.0 3:na 1a:4.1
  6:na 55:3.0 1:8.0 2:na 6:8.0 2:na 1:5.2 276:3.0 9:5.2 1d:3.0 3:na 51:3.0 8:7.0 7:na d:3.2
  1:14.0 7:3.2 1:14.0 9:na 1:14.0 17:3.2 9:na 14:3.2 c:na d:3.2 1:na 3:3.2 1:na 2:3.2 c:na 5d:3.0
  1:4.0 2:na a:3.0 6:na a:4.0 6:na f:3.0 1:14.0 a:3.0 6:na 58:3.0 1:11.0 7:na 2a:3.0 1:5.1 5:na
  46:5.2 a:na 1d:4.0 2:7.0 1:na c:4.0 4:na c:4.0 4:na 1:4.0 3:na 2a:4.0 2:na 5:4.0 b:na 2a:4.1
  2:5.2 4:na 1a:4.1 6:na a:4.1 1:5.2 3:na 2:4.1 20:4.0 1c:4.1 2:na 2:4.1 3f:5.2 1:na 1d:5.2 2:na
  b:5.2 6:na a:5.2 6:na e:5.2 2:na f:7.0 2:13.0 e:14.0 31:na 4c:5.0 1:14.0 1:na 2:16.0 2d:5.0
  2:14.0 1:16.0 2b:5.1 3:6.1 c:5.1 6:6.1 34:6.0 8:na 4:6.0 38:5.1 3:na f:5.1 3:na 33:5.1 9:9.0
  2:16.0 5:na 2b:11.0 2:na 3:11.0 8:6.1 8:na 23:5.2 4:6.1 1:10.0 2:7.0 1:12.0 5:na 6c:4.0 58:4.1
  7:5.0 1c:5.1 f:7.0 4:10.0 1:14.0 1:9.0 1:6.0 1:5.2 2:5.0 9b:1.1 1:2.0 4:5.1 5a:1.1 6:5.1 16:1.1
  2:na 6:1.1 2:na 26:1.1 2:na 6:1.1 2:na 8:1.1 1:na 1:1.1 1:na 1:1.1 1:na 1:1.1 1:na 1f:1.1 2:na
  35:1.1 1:na f:1.1 1:na e:1.1 2:na 6:1.1 1:na 13:1.1 2:na 3:1.1 1:na 9:1.1 1:na 2f:1.1 1:3.0
  17:1.1 1:3.2 6:3.0 5:3.2 2:4.0 2:4.1 1:3.2 7:4.1 5:3.2 1:5.1 1:na 4:6.3 7:1.1 1:3.2 2:na 1b:1.1
  1:na 5:4.1 8:6.0 3:na b:1.1 1:2.0 1:2.1 3:3.0 2:3.2 4:4.1 3:5.2 1:6.0 1:6.2 3:7.0 1:8.0 1:10.0
  1:14.0 f:na 12:1.1 2:3.0 7:3.2 1:4.1 4:5.0 1:5.1 f:na 39:1.1 2:3.0 1:4.0 1:4.1 f:3.2 1:4.1
  2:5.0 1:5.1 3:5.2 30:1.1 1:3.0 1:5.0 4:5.1 1:5.2 2:8.0 4:na 5b:1.1 9:3.0 c:3.2 f2:1.1 e:3.2
  1:1.1 1:3.0 79:1.1 1:3.0 1:3.2 1e:3.0 34:3.2 2:4.0 b:4.1 c:5.0 1:5.2 b:6.0 7:7.0 4:9.0 1:10.0
  25:1.1 2:3.0 3:16.0 16:na b:1.1 15:na 8b:1.1 14:3.2 1:4.0 96:1.1 a:3.2 50:1.1 8:3.0 8:3.2
  14:1.1 2:4.0 2:3.2 1:4.1 1:3.0 56:1.1 2:3.0 c:3.2 2:4.1 a:3.2 8:4.0 b:4.1 1:5.1 2:5.2 2:4.0
  10:4.1 1:5.0 a:5.1 3:5.2 4:5.1 a:5.2 1:6.0 13:5.2 1:6.0 1:5.2 4:6.0 18:5.2 1:7.0 4:1.1 1:6.0
  4:1.1 2:6.0 1c:1.1 1:6.0 23:1.1 1:6.0 1:1.1 1:6.0 4:1.1 3:6.0 1:1.1 1:5.2 7:1.1 2:6.0 7:1.1
  e:3.2 1f:1.1 3:6.0 18:1.1 1:6.0 e:1.1 1:6.0 7:4.1 4:5.0 1:6.1 1:5.1 1:6.1 2:6.0 1c:3.2 4:5.1
  10:3.2 100:3.0 200:3.2 e:4.0 6:4.1 7:5.0 5:5.1 4:5.0 29:5.1 3:7.0 5:5.1 5:5.2 1a:7.0 2:na
  20:7.0 1:na 1:13.0 22:7.0 3:11.0 c:7.0 1:12.0 8:7.0 1:10.0 19:11.0 4:8.0 f:11.0 1:12.0 2f:4.1
  1:14.0 2f:4.1 1:14.0 d:5.0 3:5.1 1:5.2 3:5.1 4:5.0 6:5.1 2:5.2 6b:4.1 7:5.2 2:6.1 5:na 2d:4.1
  1:na 1:6.1 5:na 1:6.1 2:na 36:4.1 2:6.1 7:na 1:4.1 1:6.0 e:na 1:6.0 17:4.1 9:na 7:4.1 1:na
  7:4.1 1:na 7:4.1 1:na 7:4.1 1:na 7:4.1 1:na 7:4.1 1:na 7:4.1 1:na 7:4.1 1:na 20:5.1 18:4.1
  4:5.1 2:4.1 13:5.1 1:5.2 a:6.1 7:7.0 2:9.0 5:10.0 5:11.0 1:12.0 3:13.0 b:14.0 22:na 1a:3.0 1:na
  59:3.0 c:na d6:3.0 1a:na c:3.0 4:15.1 38:1.1 3:3.0 3:3.2 1:3.0 1:1.1 1:na 54:1.1 2:3.2 2:na
  6:1.1 2:3.2 5e:1.1 1:3.2 5:na 28:1.1 1:5.1 1:10.0 1:11.0 1:na 5e:1.1 1:na 10:1.1 18:3.0 3:6.0
  5:13.0 10:4.1 14:5.1 2:16.0 9:na 1:15.1 10:3.2 1d:1.1 2:4.0 1:na 24:1.1 c:5.2 1:4.0 f:3.2
  1c:1.1 2:4.0 1:4.1 32:1.1 f:3.2 c:1.1 4:4.0 2f:1.1 1:12.1 77:1.1 4:4.0 63:1.1 2:4.0 1f:1.1
  1:4.0 19b6:3.0 a:13.0 40:4.0 51a6:1.1 16:4.1 8:5.1 8:5.2 1:6.1 9:8.0 15:10.0 5:11.0 d:13.0
  3:14.0 48d:3.0 3:na 12:3.0 2:3.2 10:3.0 1:3.2 c:3.0 1:3.2 3:3.0 1:3.2 1:3.0 9:na 30:5.2 12c:5.1
  14:na 20:5.1 2:6.0 12:5.1 8:6.1 1c:5.1 6:7.0 1:8.0 1:6.1 58:5.2 8:na 17:4.1 4:5.0 5:5.1 2:5.0
  6b:5.1 2:6.0 1:8.0 2:6.0 2:6.1 c:7.0 a:6.0 1:6.1 3:7.0 1:9.0 1:11.0 2:7.0 6:8.0 2:11.0 6:12.0
  2:14.0 5:12.0 4:13.0 3:16.0 2:na 2:14.0 1:na 1:14.0 1:na 5:14.0 3:16.0 15:na 3:14.0 2:13.0
  1:7.0 2:6.1 1:6.0 5:5.1 2c:4.1 1:13.0 3:na a:5.2 6:na 38:5.0 8:na 45:5.1 1:9.0 8:na c:5.1 6:na
  1c:5.2 2:8.0 2:11.0 54:5.1 b:na 1:5.1 1d:5.2 3:na 4e:5.2 1:na b:5.2 4:na 2:5.2 1f:7.0 1:na
  37:5.1 9:na e:5.1 2:na a:5.1 2:na 4:5.1 1c:5.2 4:7.0 43:5.2 18:na 5:5.2 17:6.1 a:na 6:6.0 2:na
  6:6.0 2:na 6:6.0 9:na 7:6.0 1:na 7:6.0 1:na 30:7.0 4:8.0 2:7.0 2:12.0 4:13.0 4:na 50:8.0 2e:5.2
  2:na a:5.2 6:na 2ba4:2.0 c:na 17:5.2 4:na 31:5.2 4:na 800:2.0 1a2e:1.1 2:6.1 3b:3.2 3:5.2 2:na
  6a:4.1 26:na 7:1.1 c:na 5:1.1 5:na 1:3.0 19:1.1 1:na 5:1.1 1:na 1:1.1 1:na 2:1.1 1:na 2:1.1
  1:na 6c:1.1 10:6.0 1:14.0 10:na 16d:1.1 10:14.0 40:1.1 2:na 36:1.1 7:na 1:14.0 20:3.1 c:1.1
  1:3.2 1:4.0 2:14.0 10:3.2 a:4.1 6:na 4:1.1 3:5.1 7:7.0 2:8.0 15:1.1 2:3.2 2:4.0 a:1.1 1:na
  13:1.1 1:na 4:1.1 4:na 3:1.1 1:3.2 1:1.1 1:na 87:1.1 2:na 1:1.1 1:na 5e:1.1 2:3.2 5e:1.1 3:na
  6:1.1 2:na 6:1.1 2:na 6:1.1 2:na 3:1.1 3:na 7:1.1 1:na 7:1.1 a:na 3:3.0 1:2.1 3:1.1 c:4.0 1:na
  1a:4.0 1:na 13:4.0 1:na 2:4.0 1:na f:4.0 2:na e:4.0 22:na 7b:4.0 5:na 3:4.0 4:na 2d:4.0 3:na
  9:4.0 4b:4.1 2:7.0 2:9.0 1:na c:5.1 1:13.0 3:na 1:7.0 2f:na 2e:5.1 82:na 1d:5.1 3:na 31:5.1
  f:na 1c:7.0 4:na 1f:3.1 1:7.0 4:3.1 9:na 3:10.0 1b:3.1 5:na 2b:7.0 5:na 1e:4.0 1:na 1:4.0
  24:4.1 4:na e:4.1 2a:na 26:3.1 2:4.0 26:3.1 50:4.0 2:na a:4.0 6:na 24:9.0 4:na 24:9.0 4:na
  28:7.0 8:na 34:7.0 b:na 1:7.0 b:14.0 1:na f:14.0 1:na 7:14.0 1:na 2:14.0 1:na b:14.0 1:na
  f:14.0 1:na 7:14.0 1:na 2:14.0 3:na 34:16.0 c:na 137:7.0 9:na 16:7.0 a:na 8:7.0 18:na 6:14.0
  1:na 2a:14.0 1:na 9:14.0 45:na 6:4.0 2:na 1:4.0 1:na 2c:4.0 1:na 2:4.0 3:na 1:4.0 2:na 1:4.0
  16:5.2 1:na 9:5.2 3f:7.0 8:na 9:7.0 30:na 13:8.0 1:na 2:8.0 5:na 5:8.0 1a:5.0 2:5.2 3:na 1:5.0
  1a:5.1 5:na 1:5.1 40:na 38:6.1 4:na 2:8.0 2:6.1 10:8.0 2:na 2e:8.0 4:4.1 1:na 2:4.1 5:na 8:4.1
  1:na 3:4.1 1:na 1b:4.1 2:11.0 2:na 3:4.1 4:na 9:4.1 1:11.0 7:na 9:4.1 7:na 20:5.2 20:7.0 20:na
  27:7.0 4:na c:7.0 9:na 36:5.2 3:na 1d:5.2 2:na 1b:5.2 5:na 8:5.2 12:7.0 7:na 4:7.0 c:na 7:7.0
  50:na 49:5.2 37:na 33:8.0 d:na 33:8.0 7:na 6:8.0 28:11.0 8:na a:11.0 6:na 26:16.0 3:na 1d:16.0
  8:na 2:16.0 d0:na 1f:5.2 1:na 2a:13.0 1:na 3:13.0 2:na 2:13.0 10:na 3:16.0 37:na 1:16.0 3:15.0
  28:11.0 8:na 2a:11.0 16:na 1a:14.0 26:na 1c:13.0 14:na 17:12.0 9:na 4e:6.0 4:na 1e:6.0 6:14.0
  9:na 1:7.0 42:5.2 1:14.0 a:na 1:11.0 2:na 19:6.1 7:na a:6.1 6:na 35:6.1 1:na e:6.1 3:11.0
  1:13.0 8:na 27:7.0 9:na 49:6.1 4:8.0 1:7.0 2:13.0 a:6.1 1:7.0 5:8.0 1:na 14:7.0 b:na 12:7.0
  1:na 2b:7.0 1:9.0 3:15.0 3e:na 7:8.0 1:na 1:8.0 1:na 4:8.0 1:na f:8.0 1:na b:8.0 6:na 3b:7.0
  5:na a:7.0 6:na 1:8.0 3:7.0 1:na 8:7.0 2:na 2:7.0 2:na 16:7.0 1:na 7:7.0 1:na 2:7.0 1:na 5:7.0
  1:na 1:11.0 9:7.0 2:na 2:7.0 2:na 3:7.0 2:na 1:8.0 6:na 1:7.0 5:na 7:7.0 2:na 7:7.0 3:na 5:7.0
  b:na a:16.0 1:na 1:16.0 2:na 1:16.0 1:na 26:16.0 1:na a:16.0 1:na 1:16.0 2:na 1:16.0 1:na
  4:16.0 1:na a:16.0 1:na 2:16.0 8:na 2:16.0 1d:na 5a:9.0 1:13.0 1:9.0 1:na 1:9.0 1:11.0 1:12.0
  2:13.0 1e:na 48:7.0 8:na a:7.0 a6:na 36:7.0 2:na 12:7.0 14:8.0 22:na 45:7.0 b:na a:7.0 6:na
  d:9.0 13:na 38:6.1 1:12.0 1:14.0 6:na a:6.1 6:na 14:16.0 1c:na 1a:8.0 1:11.0 2:na f:8.0 4:na
  10:8.0 7:14.0 b9:na 3c:11.0 64:na 53:7.0 c:na 1:7.0 7:13.0 2:na 1:13.0 2:na 8:13.0 1:na 2:13.0
  1:na 1e:13.0 1:na 2:13.0 2:na c:13.0 9:na a:13.0 46:na 8:12.0 2:na 2e:12.0 2:na b:12.0 1b:na
  48:10.0 8:na 34:10.0 2:12.0 17:10.0 1:11.0 5:10.0 d:na 10:14.0 39:7.0 7:na a:15.0 b6:na 22:16.0
  e:na a:16.0 6:na 9:9.0 1:na 2d:9.0 1:na e:9.0 a:na 1d:9.0 3:na 20:9.0 2:na 16:9.0 1:na e:9.0
  49:na 7:10.0 1:na 2:10.0 1:na 2c:10.0 3:na 1:10.0 1:na 2:10.0 1:na 9:10.0 8:na a:10.0 6:na
  6:11.0 1:na 2:11.0 1:na 25:11.0 1:na 2:11.0 1:na 6:11.0 7:na a:11.0 136:na 19:11.0 7:na 11:15.0
  1:na 29:15.0 3:na 1c:15.0 1:16.0 55:na 1:13.0 f:na 32:12.0 d:na 1:12.0 36f:5.0 2a:7.0 1:8.0
  66:na 63:5.0 c:7.0 1:na 4:5.0 1:7.0 b:na c4:8.0 a4c:na 63:14.0 d:na 42f:5.2 1:15.0 9:12.0
  1d:15.0 a:na f9b:16.0 5:na 247:8.0 1ab9:na 3a:16.0 6c6:na 239:6.0 7:na 1f:7.0 1:na a:7.0 4:na
  2:7.0 4f:14.0 1:na a:14.0 6:na 1e:7.0 2:na 6:7.0 a:na 46:7.0 a:na a:7.0 1:na 7:7.0 1:na 15:7.0
  5:na 13:7.0 1b0:na 3a:16.0 c6:na 5b:11.0 65:na 45:6.1 6:12.0 4:na 1:12.0 2f:6.1 9:12.0 7:na
  11:6.1 40:na 1:9.0 1:10.0 2:12.0 1:13.0 b:na 2:13.0 e:na 17ed:9.0 5:11.0 6:12.0 8:na 2f3:9.0
  1e3:13.0 29:na 1:16.0 9:13.0 22e7:na 4:14.0 1:na 7:14.0 1:na 2:14.0 1:na 2:6.0 11d:10.0 4:14.0
  f:na 1:15.0 1d:na 3:12.0 2:na 1:15.0 e:na 4:12.0 8:na 18c:10.0 904:na 6b:7.0 5:na d:7.0 3:na
  9:7.0 7:na a:7.0 2:na 8:7.0 f5c:na fa:16.0 6:na 1b4:16.0 4c:na 2e:14.0 2:na 17:14.0 9:na
  74:14.0 3c:na f6:3.1 a:na 27:3.1 2:na 1:5.1 b4:3.1 b:8.0 2:14.0 15:na 46:4.1 7a:na 14:15.0 c:na
  14:11.0 c:na 57:4.0 9:na 12:5.0 7:11.0 87:na 55:3.1 1:na 47:3.1 1:na 2:3.1 2:na 1:3.1 2:na
  2:3.1 2:na 4:3.1 1:na c:3.1 1:na 1:3.1 1:na 4:3.1 1:4.0 2:3.1 1:na 41:3.1 1:na 4:3.1 2:na 8:3.1
  1:na 7:3.1 1:na 1c:3.1 1:na 4:3.1 1:na 5:3.1 1:na 1:3.1 3:na 7:3.1 1:na 152:3.1 2:4.1 2:na
  122:3.1 2:5.0 2:na 32:3.1 28c:8.0 f:na 5:8.0 1:na f:8.0 450:na 1f:14.0 6:na 6:15.0 d5:na 7:9.0
  1:na 11:9.0 2:na 7:9.0 1:na 2:9.0 1:na 5:9.0 5:na 3e:15.0 21:na 1:15.0 70:na 2d:12.0 3:na
  e:12.0 2:na a:12.0 4:na 2:12.0 140:na 1f:14.0 11:na 3a:12.0 5:na 1:12.0 1d0:na 2a:15.0 d6:na
  2b:16.0 4:na 1:16.0 1e0:na 7:14.0 1:na 4:14.0 1:na 2:14.0 1:na f:14.0 1:na c5:7.0 2:na 10:7.0
  29:na 4b:9.0 1:12.0 4:na a:9.0 4:na 2:9.0 311:na 44:11.0 4c:na 3d:12.0 c2:na 4:6.1 1:na 1b:6.1
  1:na 2:6.1 1:na 1:6.1 2:na 1:6.1 1:na a:6.1 1:na 4:6.1 1:na 1:6.1 1:na 1:6.1 6:na 1:6.1 4:na
  1:6.1 1:na 1:6.1 1:na 1:6.1 1:na 3:6.1 1:na 2:6.1 1:na 1:6.1 2:na 1:6.1 1:na 1:6.1 1:na 1:6.1
  1:na 1:6.1 1:na 1:6.1 1:na 2:6.1 1:na 1:6.1 2:na 4:6.1 1:na 7:6.1 1:na 4:6.1 1:na 4:6.1 1:na
  1:6.1 1:na a:6.1 1:na 11:6.1 5:na 3:6.1 1:na 5:6.1 1:na 11:6.1 34:na 2:6.1 10e:na 2c:5.1 4:na
  64:5.1 c:na f:6.0 2:na e:6.0 1:7.0 1:na f:6.0 1:na f:6.0 16:7.0 a:na b:5.2 2:7.0 3:13.0 1f:5.2
  1:11.0 1:6.0 1:5.2 b:6.0 1:5.2 1:6.0 1:5.2 2:6.0 1:5.2 3:6.0 1:5.2 3:6.0 5:5.2 8:6.0 1:5.2
  7:6.0 1:5.2 a:6.0 2:6.1 1:12.0 3:13.0 9:6.0 1:5.2 1:6.0 2:5.2 2:6.0 1:5.2 a:6.0 4:5.2 2:6.0
  1:5.2 a:6.0 12:9.0 1:13.0 38:na 1a:6.0 1:5.2 2:6.0 d:na 22:5.2 9:6.0 1:9.0 4:na 9:5.2 7:na
  2:6.0 e:na 6:10.0 9a:na 21:6.0 c:7.0 3:8.0 6:6.0 1:7.0 46:6.0 1:7.0 2:8.0 14:6.0 c:7.0 25:6.0
  1:7.0 5:6.0 4:7.0 5:8.0 c:7.0 11:6.0 7:7.0 8:8.0 3f:6.0 1:7.0 1:6.0 1:7.0 b6:6.0 1:7.0 4:6.0
  2:7.0 1:8.0 3e:6.0 2:7.0 4:6.1 7:7.0 5:8.0 18:6.0 12:7.0 1:9.0 29:7.0 1:9.0 56:7.0 5:6.0 1:6.1
  10:6.0 1:6.1 3:6.0 1:6.1 1:6.0 1:6.1 1:6.0 1:6.1 1:6.0 1:6.1 3:6.0 1:6.1 6:6.0 2:6.1 4:6.0
  1:6.1 1:6.0 2:6.1 4:6.0 1:6.1 c:6.0 2:7.0 2:8.0 b:6.0 30:7.0 46:6.0 a:7.0 1:8.0 2:9.0 2:10.0
  1:12.0 2:13.0 4:na 1:15.0 3:14.0 d:7.0 3:na 4:7.0 3:9.0 2:10.0 1:11.0 1:12.0 2:13.0 3:na 74:6.0
  3:15.0 4:na 5:15.0 55:7.0 4:11.0 1:15.0 6:na c:12.0 4:na 1:14.0 f:na c:7.0 4:na 38:7.0 8:na
  a:7.0 6:na 28:7.0 8:na 1e:7.0 2:na 2:13.0 a:16.0 4:na 2:16.0 3e:na c:10.0 1:13.0 3:12.0 9:8.0
  6:9.0 1:10.0 8:9.0 8:10.0 1:9.0 2:10.0 c:9.0 1:12.0 c:9.0 1:10.0 3:11.0 f:9.0 d:10.0 5:11.0
  1:12.0 1:13.0 4:11.0 2:13.0 1:14.0 1:11.0 1:12.0 4:11.0 5:8.0 d:9.0 6:10.0 b:11.0 2:13.0 6:12.0
  3:13.0 2:12.0 a:11.0 6:12.0 1:8.0 2:11.0 8:12.0 1:13.0 1:14.0 3:12.0 17:10.0 19:11.0 54:12.0
  c:na e:11.0 2:na 4:12.0 1:13.0 3:15.0 3:12.0 2:14.0 3:na 3:12.0 4:13.0 2:15.0 1:16.0 5:na
  1:16.0 6:12.0 13:13.0 4:14.0 3:15.0 7:13.0 4:14.0 3:15.0 1:16.0 1:15.0 3:13.0 3:14.0 1:16.0
  7:na 2:15.0 7:13.0 3:14.0 2:15.0 1:16.0 2:na 1:16.0 8:14.0 1:15.0 1:16.0 6:na 7:14.0 2:15.0
  7:na 93:13.0 1:na 37:13.0 25:16.0 a:13.0 404:na 2:2.0 a6d7:3.1 7:13.0 2:14.0 20:na 1035:5.2
  4:14.0 1:15.0 6:na de:6.0 2:na 1682:8.0 e:na 1d31:10.0 f:na 26e:15.1 9a2:na 21e:3.1 5e0:na
  2:2.0 134b:13.0 5:na 1060:15.0 dc4e:na 2:2.0 fffe:na 2:2.0 fffe:na 2:2.0 fffe:na 2:2.0 fffe:na
  2:2.0 fffe:na 2:2.0 fffe:na 2:2.0 fffe:na 2:2.0 fffe:na 2:2.0 fffe:na 2:2.0 fffe:na 2:2.0 1:na
  1:3.1 1e:na 60:3.1 80:na f0:4.0 fe0e:na 20002:2.0"

/-- The code points assigned in `version` or earlier. -/
def upTo (version : String) : Ranges :=
  let known := versions.takeWhile (· != version) ++ [version]
  runs.having (known.contains ·)

end InvertedIndex.Unicode.Age
