import CatchmentLint.Pattern.Unicode.Runs

/-!
# CatchmentLint.Pattern.Unicode.Break

What every code point does where a text is cut into graphemes, into words and into sentences.
What plays no part of its own there (`-`) has no name.
-/

namespace CatchmentLint.Unicode

/-- The ways to cut a text. -/
inductive Cutting where
  | graphemes
  | words
  | sentences
  deriving DecidableEq, Repr

/-! ## Graphemes -/

/-- Names in their loose form, each with the code of the part that it stands for. -/
def graphemeBreakNames : List (String × String) :=
  [("cn", "CN"), ("control", "CN"), ("cr", "CR"), ("ex", "EX"), ("extend", "EX"), ("l", "L"),
   ("lf", "LF"), ("lv", "LV"), ("lvt", "LVT"), ("pp", "PP"), ("prepend", "PP"),
   ("regionalindicator", "RI"), ("ri", "RI"), ("sm", "SM"), ("spacingmark", "SM"), ("t", "T"),
   ("v", "V"), ("zwj", "ZWJ")]

def graphemeBreakRuns : List ValueRun := valueRuns
  ["CN 10 LF 1 CN 2 CR 1 CN 18 - 95 CN 33 - 13 CN 1 - 594 EX 112 - 275 EX 7 - 263 EX 45 - 1 EX 1",
   "- 1 EX 2 - 1 EX 2 - 1 EX 1 - 56 PP 6 - 10 EX 11 - 1 CN 1 - 46 EX 21 - 16 EX 1 - 101 EX 7 PP",
   "1 - 1 EX 6 - 2 EX 2 - 1 EX 4 - 33 PP 1 - 1 EX 1 - 30 EX 27 - 91 EX 11 - 58 EX 9 - 9 EX 1 -",
   "24 EX 4 - 1 EX 9 - 1 EX 3 - 1 EX 5 - 43 EX 3 - 52 PP 2 - 5 EX 9 - 42 EX 24 PP 1 EX 32 SM 1 -",
   "54 EX 1 SM 1 EX 1 - 1 SM 3 EX 8 SM 4 EX 1 SM 2 - 1 EX 7 - 10 EX 2 - 29 EX 1 SM 2 - 56 EX 1 -",
   "1 EX 1 SM 2 EX 4 - 2 SM 2 - 2 SM 2 EX 1 - 9 EX 1 - 10 EX 2 - 26 EX 1 - 2 EX 2 SM 1 - 56 EX 1",
   "- 1 SM 3 EX 2 - 4 EX 2 - 2 EX 3 - 3 EX 1 - 30 EX 2 - 3 EX 1 - 11 EX 2 SM 1 - 56 EX 1 - 1 SM",
   "3 EX 5 - 1 EX 2 SM 1 - 1 SM 2 EX 1 - 20 EX 2 - 22 EX 6 - 1 EX 1 SM 2 - 56 EX 1 - 1 EX 2 SM 1",
   "EX 4 - 2 SM 2 - 2 SM 2 EX 1 - 7 EX 3 - 10 EX 2 - 30 EX 1 - 59 EX 1 SM 1 EX 1 SM 2 - 3 SM 3 -",
   "1 SM 3 EX 1 - 9 EX 1 - 40 EX 1 SM 3 EX 1 - 55 EX 1 - 1 EX 3 SM 4 - 1 EX 3 - 1 EX 4 - 7 EX 2",
   "- 11 EX 2 - 29 EX 1 SM 2 - 56 EX 1 - 1 SM 1 EX 2 SM 1 EX 1 SM 2 - 1 EX 3 - 1 EX 4 - 7 EX 2 -",
   "11 EX 2 - 15 SM 1 - 12 EX 2 SM 2 - 55 EX 2 - 1 EX 1 SM 2 EX 4 - 1 SM 3 - 1 SM 3 EX 1 PP 1 -",
   "8 EX 1 - 10 EX 2 - 29 EX 1 SM 2 - 70 EX 1 - 4 EX 1 SM 2 EX 3 - 1 EX 1 - 1 SM 7 EX 1 - 18 SM",
   "2 - 61 EX 1 - 1 SM 1 EX 7 - 12 EX 8 - 98 EX 1 - 1 SM 1 EX 9 - 11 EX 7 - 73 EX 2 - 27 EX 1 -",
   "1 EX 1 - 1 EX 1 - 4 SM 2 - 49 EX 14 SM 1 EX 5 - 1 EX 2 - 5 EX 11 - 1 EX 36 - 9 EX 1 - 102 EX",
   "4 SM 1 EX 6 - 1 EX 2 SM 2 EX 2 - 23 SM 2 EX 2 - 4 EX 3 - 16 EX 4 - 13 EX 1 - 1 SM 1 EX 2 - 6",
   "EX 1 - 15 EX 1 - 98 L 96 V 72 T 88 - 349 EX 3 - 946 EX 4 - 28 EX 3 - 29 EX 2 - 30 EX 2 - 64",
   "EX 2 SM 1 EX 7 SM 8 EX 1 SM 2 EX 11 - 9 EX 1 - 45 EX 3 CN 1 EX 1 - 117 EX 2 - 34 EX 1 - 118",
   "EX 3 SM 4 EX 2 SM 3 - 4 SM 2 EX 1 SM 6 EX 3 - 219 EX 2 SM 2 EX 1 - 57 SM 1 EX 1 SM 1 EX 7 -",
   "1 EX 1 - 1 EX 1 - 2 EX 8 SM 6 EX 10 - 2 EX 1 - 48 EX 31 - 49 EX 4 SM 1 - 47 EX 10 SM 4 EX 3",
   "- 38 EX 9 - 12 EX 2 SM 1 - 30 SM 1 EX 4 SM 2 EX 6 - 56 EX 1 SM 1 EX 2 SM 3 EX 1 SM 1 EX 5 -",
   "48 SM 8 EX 8 SM 2 EX 2 - 152 EX 3 - 1 EX 13 SM 1 EX 7 - 4 EX 1 - 6 EX 1 - 2 SM 1 EX 2 - 198",
   "EX 64 - 523 CN 1 EX 1 ZWJ 1 CN 2 - 24 CN 7 - 49 CN 16 - 96 EX 33 - 3070 EX 3 - 141 EX 1 - 96",
   "EX 32 - 554 EX 6 - 105 EX 2 - 30164 EX 4 - 1 EX 10 - 32 EX 2 - 80 EX 2 - 272 EX 1 - 3 EX 1 -",
   "4 EX 1 - 23 SM 2 EX 2 SM 1 - 4 EX 1 - 83 SM 2 - 50 SM 16 EX 2 - 26 EX 18 - 13 EX 1 - 38 EX 8",
   "- 25 EX 11 SM 1 EX 1 - 12 L 29 - 3 EX 3 SM 1 - 47 EX 1 SM 2 EX 4 SM 2 EX 2 SM 2 EX 1 - 36 EX",
   "1 - 67 EX 6 SM 2 EX 2 SM 2 EX 2 - 12 EX 1 - 8 EX 1 SM 1 - 46 EX 1 - 51 EX 1 - 1 EX 3 - 2 EX",
   "2 - 5 EX 2 - 1 EX 1 - 41 SM 1 EX 2 SM 2 - 5 SM 1 EX 1 - 236 SM 2 EX 1 SM 2 EX 1 SM 2 - 1 SM",
   "1 EX 1 - 18 LV 1 LVT 27 LV 1 LVT 27 LV 1 LVT 27 LV 1 LVT 27 LV 1 LVT 27 LV 1 LVT 27 LV 1 LVT",
   "27 LV 1 LVT 27 LV 1 LVT 27 LV 1 LVT 27 LV 1 LVT 27 LV 1 LVT 27 LV 1 LVT 27 LV 1 LVT 27 LV 1",
   "LVT 27 LV 1 LVT 27 LV 1 LVT 27 LV 1 LVT 27 LV 1 LVT 27 LV 1 LVT 27 LV 1 LVT 27 LV 1 LVT 27",
   "LV 1 LVT 27 LV 1 LVT 27 LV 1 LVT 27 LV 1 LVT 27 LV 1 LVT 27 LV 1 LVT 27 LV 1 LVT 27 LV 1 LVT",
   "27 LV 1 LVT 27 LV 1 LVT 27 LV 1 LVT 27 LV 1 LVT 27 LV 1 LVT 27 LV 1 LVT 27 LV 1 LVT 27 LV 1",
   "LVT 27 LV 1 LVT 27 LV 1 LVT 27 LV 1 LVT 27 LV 1 LVT 27 LV 1 LVT 27 LV 1 LVT 27 LV 1 LVT 27",
   "LV 1 LVT 27 LV 1 LVT 27 LV 1 LVT 27 LV 1 LVT 27 LV 1 LVT 27 LV 1 LVT 27 LV 1 LVT 27 LV 1 LVT",
   "27 LV 1 LVT 27 LV 1 LVT 27 LV 1 LVT 27 LV 1 LVT 27 LV 1 LVT 27 LV 1 LVT 27 LV 1 LVT 27 LV 1",
   "LVT 27 LV 1 LVT 27 LV 1 LVT 27 LV 1 LVT 27 LV 1 LVT 27 LV 1 LVT 27 LV 1 LVT 27 LV 1 LVT 27",
   "LV 1 LVT 27 LV 1 LVT 27 LV 1 LVT 27 LV 1 LVT 27 LV 1 LVT 27 LV 1 LVT 27 LV 1 LVT 27 LV 1 LVT",
   "27 LV 1 LVT 27 LV 1 LVT 27 LV 1 LVT 27 LV 1 LVT 27 LV 1 LVT 27 LV 1 LVT 27 LV 1 LVT 27 LV 1",
   "LVT 27 LV 1 LVT 27 LV 1 LVT 27 LV 1 LVT 27 LV 1 LVT 27 LV 1 LVT 27 LV 1 LVT 27 LV 1 LVT 27",
   "LV 1 LVT 27 LV 1 LVT 27 LV 1 LVT 27 LV 1 LVT 27 LV 1 LVT 27 LV 1 LVT 27 LV 1 LVT 27 LV 1 LVT",
   "27 LV 1 LVT 27 LV 1 LVT 27 LV 1 LVT 27 LV 1 LVT 27 LV 1 LVT 27 LV 1 LVT 27 LV 1 LVT 27 LV 1",
   "LVT 27 LV 1 LVT 27 LV 1 LVT 27 LV 1 LVT 27 LV 1 LVT 27 LV 1 LVT 27 LV 1 LVT 27 LV 1 LVT 27",
   "LV 1 LVT 27 LV 1 LVT 27 LV 1 LVT 27 LV 1 LVT 27 LV 1 LVT 27 LV 1 LVT 27 LV 1 LVT 27 LV 1 LVT",
   "27 LV 1 LVT 27 LV 1 LVT 27 LV 1 LVT 27 LV 1 LVT 27 LV 1 LVT 27 LV 1 LVT 27 LV 1 LVT 27 LV 1",
   "LVT 27 LV 1 LVT 27 LV 1 LVT 27 LV 1 LVT 27 LV 1 LVT 27 LV 1 LVT 27 LV 1 LVT 27 LV 1 LVT 27",
   "LV 1 LVT 27 LV 1 LVT 27 LV 1 LVT 27 LV 1 LVT 27 LV 1 LVT 27 LV 1 LVT 27 LV 1 LVT 27 LV 1 LVT",
   "27 LV 1 LVT 27 LV 1 LVT 27 LV 1 LVT 27 LV 1 LVT 27 LV 1 LVT 27 LV 1 LVT 27 LV 1 LVT 27 LV 1",
   "LVT 27 LV 1 LVT 27 LV 1 LVT 27 LV 1 LVT 27 LV 1 LVT 27 LV 1 LVT 27 LV 1 LVT 27 LV 1 LVT 27",
   "LV 1 LVT 27 LV 1 LVT 27 LV 1 LVT 27 LV 1 LVT 27 LV 1 LVT 27 LV 1 LVT 27 LV 1 LVT 27 LV 1 LVT",
   "27 LV 1 LVT 27 LV 1 LVT 27 LV 1 LVT 27 LV 1 LVT 27 LV 1 LVT 27 LV 1 LVT 27 LV 1 LVT 27 LV 1",
   "LVT 27 LV 1 LVT 27 LV 1 LVT 27 LV 1 LVT 27 LV 1 LVT 27 LV 1 LVT 27 LV 1 LVT 27 LV 1 LVT 27",
   "LV 1 LVT 27 LV 1 LVT 27 LV 1 LVT 27 LV 1 LVT 27 LV 1 LVT 27 LV 1 LVT 27 LV 1 LVT 27 LV 1 LVT",
   "27 LV 1 LVT 27 LV 1 LVT 27 LV 1 LVT 27 LV 1 LVT 27 LV 1 LVT 27 LV 1 LVT 27 LV 1 LVT 27 LV 1",
   "LVT 27 LV 1 LVT 27 LV 1 LVT 27 LV 1 LVT 27 LV 1 LVT 27 LV 1 LVT 27 LV 1 LVT 27 LV 1 LVT 27",
   "LV 1 LVT 27 LV 1 LVT 27 LV 1 LVT 27 LV 1 LVT 27 LV 1 LVT 27 LV 1 LVT 27 LV 1 LVT 27 LV 1 LVT",
   "27 LV 1 LVT 27 LV 1 LVT 27 LV 1 LVT 27 LV 1 LVT 27 LV 1 LVT 27 LV 1 LVT 27 LV 1 LVT 27 LV 1",
   "LVT 27 LV 1 LVT 27 LV 1 LVT 27 LV 1 LVT 27 LV 1 LVT 27 LV 1 LVT 27 LV 1 LVT 27 LV 1 LVT 27",
   "LV 1 LVT 27 LV 1 LVT 27 LV 1 LVT 27 LV 1 LVT 27 LV 1 LVT 27 LV 1 LVT 27 LV 1 LVT 27 LV 1 LVT",
   "27 LV 1 LVT 27 LV 1 LVT 27 LV 1 LVT 27 LV 1 LVT 27 LV 1 LVT 27 LV 1 LVT 27 LV 1 LVT 27 LV 1",
   "LVT 27 LV 1 LVT 27 LV 1 LVT 27 LV 1 LVT 27 LV 1 LVT 27 LV 1 LVT 27 LV 1 LVT 27 LV 1 LVT 27",
   "LV 1 LVT 27 LV 1 LVT 27 LV 1 LVT 27 LV 1 LVT 27 LV 1 LVT 27 LV 1 LVT 27 LV 1 LVT 27 LV 1 LVT",
   "27 LV 1 LVT 27 LV 1 LVT 27 LV 1 LVT 27 LV 1 LVT 27 LV 1 LVT 27 LV 1 LVT 27 LV 1 LVT 27 LV 1",
   "LVT 27 LV 1 LVT 27 LV 1 LVT 27 LV 1 LVT 27 LV 1 LVT 27 LV 1 LVT 27 LV 1 LVT 27 LV 1 LVT 27",
   "LV 1 LVT 27 LV 1 LVT 27 LV 1 LVT 27 LV 1 LVT 27 LV 1 LVT 27 LV 1 LVT 27 LV 1 LVT 27 LV 1 LVT",
   "27 LV 1 LVT 27 LV 1 LVT 27 LV 1 LVT 27 LV 1 LVT 27 LV 1 LVT 27 LV 1 LVT 27 LV 1 LVT 27 LV 1",
   "LVT 27 LV 1 LVT 27 LV 1 LVT 27 LV 1 LVT 27 LV 1 LVT 27 LV 1 LVT 27 LV 1 LVT 27 LV 1 LVT 27",
   "LV 1 LVT 27 LV 1 LVT 27 LV 1 LVT 27 LV 1 LVT 27 LV 1 LVT 27 LV 1 LVT 27 LV 1 LVT 27 LV 1 LVT",
   "27 LV 1 LVT 27 LV 1 LVT 27 LV 1 LVT 27 LV 1 LVT 27 LV 1 LVT 27 LV 1 LVT 27 LV 1 LVT 27 LV 1",
   "LVT 27 LV 1 LVT 27 LV 1 LVT 27 LV 1 LVT 27 LV 1 LVT 27 LV 1 LVT 27 LV 1 LVT 27 LV 1 LVT 27",
   "LV 1 LVT 27 LV 1 LVT 27 LV 1 LVT 27 LV 1 LVT 27 LV 1 LVT 27 LV 1 LVT 27 LV 1 LVT 27 LV 1 LVT",
   "27 LV 1 LVT 27 LV 1 LVT 27 LV 1 LVT 27 LV 1 LVT 27 LV 1 LVT 27 LV 1 LVT 27 LV 1 LVT 27 LV 1",
   "LVT 27 LV 1 LVT 27 LV 1 LVT 27 LV 1 LVT 27 LV 1 LVT 27 LV 1 LVT 27 LV 1 LVT 27 LV 1 LVT 27",
   "LV 1 LVT 27 LV 1 LVT 27 LV 1 LVT 27 LV 1 LVT 27 LV 1 LVT 27 LV 1 LVT 27 LV 1 LVT 27 LV 1 LVT",
   "27 LV 1 LVT 27 LV 1 LVT 27 LV 1 LVT 27 LV 1 LVT 27 LV 1 LVT 27 LV 1 LVT 27 LV 1 LVT 27 LV 1",
   "LVT 27 LV 1 LVT 27 LV 1 LVT 27 LV 1 LVT 27 LV 1 LVT 27 LV 1 LVT 27 LV 1 LVT 27 LV 1 LVT 27",
   "LV 1 LVT 27 LV 1 LVT 27 LV 1 LVT 27 LV 1 LVT 27 LV 1 LVT 27 LV 1 LVT 27 LV 1 LVT 27 LV 1 LVT",
   "27 LV 1 LVT 27 LV 1 LVT 27 LV 1 LVT 27 LV 1 LVT 27 LV 1 LVT 27 LV 1 LVT 27 LV 1 LVT 27 LV 1",
   "LVT 27 LV 1 LVT 27 LV 1 LVT 27 LV 1 LVT 27 LV 1 LVT 27 LV 1 LVT 27 LV 1 LVT 27 LV 1 LVT 27",
   "LV 1 LVT 27 LV 1 LVT 27 LV 1 LVT 27 LV 1 LVT 27 LV 1 LVT 27 LV 1 LVT 27 LV 1 LVT 27 LV 1 LVT",
   "27 LV 1 LVT 27 - 12 V 23 - 4 T 49 - 8994 EX 1 - 737 EX 16 - 16 EX 16 - 207 CN 1 - 158 EX 2 -",
   "80 CN 12 - 513 EX 1 - 226 EX 1 - 149 EX 5 - 1670 EX 3 - 1 EX 2 - 5 EX 4 - 40 EX 3 - 4 EX 1 -",
   "165 EX 2 - 573 EX 4 - 65 EX 5 - 317 EX 2 - 79 EX 4 - 70 EX 11 - 49 EX 4 - 122 SM 1 EX 1 SM 1",
   "- 53 EX 15 - 41 EX 1 - 2 EX 2 - 10 EX 3 SM 1 - 45 SM 3 EX 4 SM 2 EX 2 - 2 PP 1 - 4 EX 1 - 10",
   "PP 1 - 50 EX 3 - 36 EX 5 SM 1 EX 8 - 16 SM 2 - 44 EX 1 - 12 EX 2 SM 1 - 48 SM 3 EX 9 SM 1 EX",
   "1 - 1 PP 2 - 5 EX 4 - 1 SM 1 EX 1 - 92 SM 3 EX 3 SM 2 EX 4 - 6 EX 1 - 2 EX 1 - 157 EX 1 SM 3",
   "EX 8 - 21 EX 2 SM 2 - 55 EX 2 - 1 EX 1 SM 1 EX 1 SM 4 - 2 SM 2 - 2 SM 2 EX 1 - 9 EX 1 - 10",
   "SM 2 - 2 EX 7 - 3 EX 5 - 67 EX 1 SM 2 EX 6 - 1 EX 1 - 2 EX 1 - 1 EX 3 SM 1 - 1 SM 2 EX 3 PP",
   "1 EX 1 - 14 EX 2 - 82 SM 3 EX 8 SM 2 EX 3 SM 1 EX 1 - 23 EX 1 - 81 EX 1 SM 2 EX 6 SM 1 EX 1",
   "SM 2 EX 1 SM 1 EX 2 SM 1 EX 2 - 235 EX 1 SM 2 EX 4 - 2 SM 4 EX 2 SM 1 EX 2 - 27 EX 2 - 82 SM",
   "3 EX 8 SM 2 EX 1 SM 1 EX 2 - 106 EX 1 SM 1 EX 1 SM 2 EX 8 - 101 EX 1 SM 1 EX 1 - 2 EX 4 SM 1",
   "EX 5 - 256 SM 3 EX 9 SM 1 EX 2 - 245 EX 1 SM 5 - 1 SM 2 - 2 EX 4 PP 1 SM 1 PP 1 SM 1 EX 1 -",
   "141 SM 3 EX 4 - 2 EX 2 SM 4 EX 1 - 3 SM 1 - 28 EX 10 - 40 EX 6 SM 1 PP 1 EX 4 - 8 EX 1 - 9",
   "EX 6 SM 2 EX 3 - 40 PP 6 EX 13 SM 1 EX 2 - 405 SM 1 EX 7 - 1 EX 6 SM 1 EX 1 - 82 EX 22 - 1",
   "SM 1 EX 7 SM 1 EX 2 SM 1 EX 2 - 122 EX 6 - 3 EX 1 - 1 EX 2 - 1 EX 7 PP 1 EX 1 - 66 SM 5 - 1",
   "EX 2 - 1 SM 2 EX 1 SM 1 EX 1 - 347 EX 2 SM 2 - 9 EX 2 PP 1 SM 1 - 48 SM 2 EX 5 - 3 SM 2 EX 3",
   "- 23 EX 1 - 5333 CN 16 EX 1 - 6 EX 15 - 11464 EX 12 SM 3 EX 3 - 2496 EX 5 - 59 EX 7 - 556 V",
   "1 - 3 V 4 - 484 EX 1 - 1 SM 55 - 7 EX 4 - 81 EX 1 - 11 EX 2 - 19627 EX 2 - 1 CN 4 - 4700 EX",
   "46 - 2 EX 23 - 542 EX 5 - 3 EX 6 CN 8 EX 8 - 2 EX 7 - 30 EX 4 - 148 EX 3 - 1979 EX 55 - 4 EX",
   "50 - 8 EX 1 - 14 EX 1 - 22 EX 5 - 1 EX 15 - 1360 EX 7 - 1 EX 17 - 2 EX 7 - 1 EX 2 - 1 EX 5 -",
   "100 EX 1 - 160 EX 7 - 375 EX 1 - 61 EX 4 - 508 EX 4 - 254 EX 2 - 736 EX 7 - 109 EX 7 - 2203",
   "RI 26 - 507 EX 5 - 789504 CN 32 EX 96 CN 128 EX 240 CN 3600 - 192512"]

/-! ## Words -/

def wordBreakNames : List (String × String) :=
  [("aletter", "LE"), ("cr", "CR"), ("doublequote", "DQ"), ("dq", "DQ"), ("ex", "EX"),
   ("extend", "EXTEND"), ("extendnumlet", "EX"), ("fo", "FO"), ("format", "FO"),
   ("hebrewletter", "HL"), ("hl", "HL"), ("ka", "KA"), ("katakana", "KA"), ("le", "LE"),
   ("lf", "LF"), ("mb", "MB"), ("midletter", "ML"), ("midnum", "MN"), ("midnumlet", "MB"),
   ("ml", "ML"), ("mn", "MN"), ("newline", "NL"), ("nl", "NL"), ("nu", "NU"), ("numeric", "NU"),
   ("regionalindicator", "RI"), ("ri", "RI"), ("singlequote", "SQ"), ("sq", "SQ"),
   ("wsegspace", "WSEGSPACE"), ("zwj", "ZWJ")]

def wordBreakRuns : List ValueRun := valueRuns
  ["- 10 LF 1 NL 2 CR 1 - 18 WSEGSPACE 1 - 1 DQ 1 - 4 SQ 1 - 4 MN 1 - 1 MB 1 - 1 NU 10 ML 1 MN 1",
   "- 5 LE 26 - 4 EX 1 - 1 LE 26 - 10 NL 1 - 36 LE 1 - 2 FO 1 - 7 LE 1 - 1 ML 1 - 2 LE 1 - 5 LE",
   "23 - 1 LE 31 - 1 LE 480 - 6 LE 34 EXTEND 112 LE 5 - 1 LE 2 - 2 LE 4 MN 1 LE 1 - 6 LE 1 ML 1",
   "LE 3 - 1 LE 1 - 1 LE 20 - 1 LE 83 - 1 LE 139 - 1 EXTEND 7 LE 166 - 1 LE 38 - 2 LE 4 - 1 LE 1",
   "ML 1 LE 41 MN 1 LE 1 - 6 EXTEND 45 - 1 EXTEND 1 - 1 EXTEND 2 - 1 EXTEND 2 - 1 EXTEND 1 - 8",
   "HL 27 - 4 HL 4 LE 1 ML 1 - 11 NU 6 - 6 MN 2 - 2 EXTEND 11 - 1 FO 1 - 3 LE 43 EXTEND 21 NU 10",
   "- 1 NU 1 MN 1 - 1 LE 2 EXTEND 1 LE 99 - 1 LE 1 EXTEND 7 NU 1 - 1 EXTEND 6 LE 2 EXTEND 2 - 1",
   "EXTEND 4 LE 2 NU 10 LE 3 - 2 LE 1 - 15 LE 2 EXTEND 1 LE 30 EXTEND 27 - 2 LE 89 EXTEND 11 LE",
   "1 - 14 NU 10 LE 33 EXTEND 9 LE 2 - 2 MN 1 - 1 LE 1 - 2 EXTEND 1 - 2 LE 22 EXTEND 4 LE 1",
   "EXTEND 9 LE 1 EXTEND 3 LE 1 EXTEND 5 - 18 LE 25 EXTEND 3 - 4 LE 11 - 5 LE 24 - 1 LE 6 - 1 NU",
   "2 - 5 EXTEND 9 LE 42 EXTEND 24 NU 1 EXTEND 33 LE 54 EXTEND 3 LE 1 EXTEND 18 LE 1 EXTEND 7 LE",
   "10 EXTEND 2 - 2 NU 10 - 1 LE 16 EXTEND 3 - 1 LE 8 - 2 LE 2 - 2 LE 22 - 1 LE 7 - 1 LE 1 - 3",
   "LE 4 - 2 EXTEND 1 LE 1 EXTEND 7 - 2 EXTEND 2 - 2 EXTEND 3 LE 1 - 8 EXTEND 1 - 4 LE 2 - 1 LE",
   "3 EXTEND 2 - 2 NU 10 LE 2 - 10 LE 1 - 1 EXTEND 1 - 2 EXTEND 3 - 1 LE 6 - 4 LE 2 - 2 LE 22 -",
   "1 LE 7 - 1 LE 2 - 1 LE 2 - 1 LE 2 - 2 EXTEND 1 - 1 EXTEND 5 - 4 EXTEND 2 - 2 EXTEND 3 - 3",
   "EXTEND 1 - 7 LE 4 - 1 LE 1 - 7 NU 10 EXTEND 2 LE 3 EXTEND 1 - 11 EXTEND 3 - 1 LE 9 - 1 LE 3",
   "- 1 LE 22 - 1 LE 7 - 1 LE 2 - 1 LE 5 - 2 EXTEND 1 LE 1 EXTEND 8 - 1 EXTEND 3 - 1 EXTEND 3 -",
   "2 LE 1 - 15 LE 2 EXTEND 2 - 2 NU 10 - 9 LE 1 EXTEND 6 - 1 EXTEND 3 - 1 LE 8 - 2 LE 2 - 2 LE",
   "22 - 1 LE 7 - 1 LE 2 - 1 LE 5 - 2 EXTEND 1 LE 1 EXTEND 7 - 2 EXTEND 2 - 2 EXTEND 3 - 7",
   "EXTEND 3 - 4 LE 2 - 1 LE 3 EXTEND 2 - 2 NU 10 - 1 LE 1 - 16 EXTEND 1 LE 1 - 1 LE 6 - 3 LE 3",
   "- 1 LE 4 - 3 LE 2 - 1 LE 1 - 1 LE 2 - 3 LE 2 - 3 LE 3 - 3 LE 12 - 4 EXTEND 5 - 3 EXTEND 3 -",
   "1 EXTEND 4 - 2 LE 1 - 6 EXTEND 1 - 14 NU 10 - 16 EXTEND 5 LE 8 - 1 LE 3 - 1 LE 23 - 1 LE 16",
   "- 2 EXTEND 1 LE 1 EXTEND 7 - 1 EXTEND 3 - 1 EXTEND 4 - 7 EXTEND 2 - 1 LE 3 - 2 LE 1 - 2 LE 2",
   "EXTEND 2 - 2 NU 10 - 16 LE 1 EXTEND 3 - 1 LE 8 - 1 LE 3 - 1 LE 23 - 1 LE 10 - 1 LE 5 - 2",
   "EXTEND 1 LE 1 EXTEND 7 - 1 EXTEND 3 - 1 EXTEND 4 - 7 EXTEND 2 - 6 LE 2 - 1 LE 2 EXTEND 2 - 2",
   "NU 10 - 1 LE 2 EXTEND 1 - 12 EXTEND 4 LE 9 - 1 LE 3 - 1 LE 41 EXTEND 2 LE 1 EXTEND 7 - 1",
   "EXTEND 3 - 1 EXTEND 4 LE 1 - 5 LE 3 EXTEND 1 - 7 LE 3 EXTEND 2 - 2 NU 10 - 10 LE 6 - 1",
   "EXTEND 3 - 1 LE 18 - 3 LE 24 - 1 LE 9 - 1 LE 1 - 2 LE 7 - 3 EXTEND 1 - 4 EXTEND 6 - 1 EXTEND",
   "1 - 1 EXTEND 8 - 6 NU 10 - 2 EXTEND 2 - 61 EXTEND 1 - 2 EXTEND 7 - 12 EXTEND 8 - 1 NU 10 -",
   "87 EXTEND 1 - 2 EXTEND 9 - 11 EXTEND 7 - 1 NU 10 - 38 LE 1 - 23 EXTEND 2 - 6 NU 10 - 11",
   "EXTEND 1 - 1 EXTEND 1 - 1 EXTEND 1 - 4 EXTEND 2 LE 8 - 1 LE 36 - 4 EXTEND 20 - 1 EXTEND 2 LE",
   "5 EXTEND 11 - 1 EXTEND 36 - 9 EXTEND 1 - 100 EXTEND 20 - 1 NU 10 - 12 EXTEND 4 - 4 EXTEND 3",
   "- 1 EXTEND 3 - 2 EXTEND 7 - 3 EXTEND 4 - 13 EXTEND 12 - 1 EXTEND 1 NU 10 EXTEND 4 - 2 LE 38",
   "- 1 LE 1 - 5 LE 1 - 2 LE 43 - 1 LE 333 - 1 LE 4 - 2 LE 7 - 1 LE 1 - 1 LE 4 - 2 LE 41 - 1 LE",
   "4 - 2 LE 33 - 1 LE 4 - 2 LE 7 - 1 LE 1 - 1 LE 4 - 2 LE 15 - 1 LE 57 - 1 LE 4 - 2 LE 67 - 2",
   "EXTEND 3 - 32 LE 16 - 16 LE 86 - 2 LE 6 - 3 LE 620 - 2 LE 17 WSEGSPACE 1 LE 26 - 5 LE 75 - 3",
   "LE 11 - 7 LE 18 EXTEND 4 - 9 LE 19 EXTEND 3 - 11 LE 18 EXTEND 2 - 12 LE 13 - 1 LE 3 - 1",
   "EXTEND 2 - 64 EXTEND 32 - 9 EXTEND 1 - 2 NU 10 - 33 EXTEND 3 FO 1 EXTEND 1 NU 10 - 6 LE 89 -",
   "7 LE 5 EXTEND 2 LE 34 EXTEND 1 LE 1 - 5 LE 70 - 10 LE 31 - 1 EXTEND 12 - 4 EXTEND 12 - 10 NU",
   "10 - 128 NU 11 - 37 LE 23 EXTEND 5 - 57 EXTEND 10 - 1 EXTEND 29 - 2 EXTEND 1 NU 10 - 6 NU 10",
   "- 22 EXTEND 31 - 49 EXTEND 5 LE 47 EXTEND 17 LE 8 - 3 NU 10 - 17 EXTEND 9 - 12 EXTEND 3 LE",
   "30 EXTEND 13 LE 2 NU 10 LE 44 EXTEND 14 - 12 LE 36 EXTEND 20 - 8 NU 10 - 3 LE 3 NU 10 LE 36",
   "- 2 LE 11 - 5 LE 43 - 2 LE 3 - 16 EXTEND 3 - 1 EXTEND 21 LE 4 EXTEND 1 LE 6 EXTEND 1 LE 2",
   "EXTEND 3 LE 1 - 5 LE 192 EXTEND 64 LE 278 - 2 LE 6 - 2 LE 38 - 2 LE 6 - 2 LE 8 - 1 LE 1 - 1",
   "LE 1 - 1 LE 1 - 1 LE 31 - 2 LE 53 - 1 LE 7 - 1 LE 1 - 3 LE 3 - 1 LE 7 - 3 LE 4 - 2 LE 6 - 4",
   "LE 13 - 5 LE 3 - 1 LE 7 - 3 WSEGSPACE 7 - 1 WSEGSPACE 3 - 1 EXTEND 1 ZWJ 1 FO 2 - 8 MB 2 -",
   "10 MB 1 - 2 ML 1 NL 2 FO 5 EX 1 - 15 EX 2 - 3 MN 1 - 15 EX 1 - 10 WSEGSPACE 1 FO 5 - 1 FO 10",
   "- 1 LE 1 - 13 LE 1 - 16 LE 13 - 51 EXTEND 33 - 17 LE 1 - 4 LE 1 - 2 LE 10 - 1 LE 1 - 3 LE 5",
   "- 6 LE 1 - 1 LE 1 - 1 LE 1 - 1 LE 4 - 1 LE 11 - 2 LE 4 - 5 LE 5 - 4 LE 1 - 17 LE 41 - 813 LE",
   "52 - 1814 LE 229 - 6 LE 4 EXTEND 3 LE 2 - 12 LE 38 - 1 LE 1 - 5 LE 1 - 2 LE 56 - 7 LE 1 - 15",
   "EXTEND 1 LE 23 - 9 LE 7 - 1 LE 7 - 1 LE 7 - 1 LE 7 - 1 LE 7 - 1 LE 7 - 1 LE 7 - 1 LE 7 - 1",
   "EXTEND 32 - 47 LE 1 - 464 WSEGSPACE 1 - 4 LE 1 - 36 EXTEND 6 - 1 KA 5 - 5 LE 2 - 92 EXTEND 2",
   "KA 2 - 3 KA 91 - 1 KA 4 - 5 LE 43 - 1 LE 94 - 17 LE 32 - 48 KA 16 - 208 KA 47 - 1 KA 88 -",
   "27816 LE 1165 - 67 LE 46 - 2 LE 269 - 3 LE 16 NU 10 LE 2 - 20 LE 47 EXTEND 4 - 1 EXTEND 10 -",
   "1 LE 31 EXTEND 2 LE 80 EXTEND 2 - 22 LE 198 - 2 LE 2 - 1 LE 1 - 1 LE 8 - 21 LE 16 EXTEND 1",
   "LE 3 EXTEND 1 LE 4 EXTEND 1 LE 23 EXTEND 5 - 4 EXTEND 1 - 19 LE 52 - 12 EXTEND 2 LE 50",
   "EXTEND 18 - 10 NU 10 - 6 EXTEND 18 LE 6 - 3 LE 1 - 1 LE 2 EXTEND 1 NU 10 LE 28 EXTEND 8 - 2",
   "LE 23 EXTEND 13 - 12 LE 29 - 3 EXTEND 4 LE 47 EXTEND 14 - 14 LE 1 NU 10 - 11 EXTEND 1 - 10",
   "NU 10 - 6 LE 41 EXTEND 14 - 9 LE 3 EXTEND 1 LE 8 EXTEND 2 - 2 NU 10 - 33 EXTEND 3 - 50",
   "EXTEND 1 - 1 EXTEND 3 - 2 EXTEND 2 - 5 EXTEND 2 - 1 EXTEND 1 - 30 LE 11 EXTEND 5 - 2 LE 3",
   "EXTEND 2 - 10 LE 6 - 2 LE 6 - 2 LE 6 - 9 LE 7 - 1 LE 7 - 1 LE 58 - 6 LE 115 EXTEND 8 - 1",
   "EXTEND 2 - 2 NU 10 - 6 LE 11172 - 12 LE 23 - 4 LE 49 - 8964 LE 7 - 12 LE 5 - 5 HL 1 EXTEND 1",
   "HL 10 - 1 HL 13 - 1 HL 5 - 1 HL 1 - 1 HL 2 - 1 HL 2 - 1 HL 10 LE 98 - 33 LE 363 - 18 LE 64 -",
   "2 LE 54 - 40 LE 12 - 4 EXTEND 16 - 3 ML 1 - 12 EXTEND 16 - 3 EX 2 - 24 EX 3 MN 1 - 1 MB 1 -",
   "1 MN 1 ML 1 - 26 LE 5 - 1 LE 135 - 2 FO 1 - 7 MB 1 - 4 MN 1 - 1 MB 1 - 1 NU 10 ML 1 MN 1 - 5",
   "LE 26 - 4 EX 1 - 1 LE 26 - 11 KA 56 EXTEND 2 LE 31 - 3 LE 6 - 2 LE 6 - 2 LE 6 - 2 LE 3 - 28",
   "FO 3 - 4 LE 12 - 1 LE 26 - 1 LE 19 - 1 LE 2 - 1 LE 15 - 2 LE 14 - 34 LE 123 - 69 LE 53 - 136",
   "EXTEND 1 - 130 LE 29 - 3 LE 49 - 15 EXTEND 1 - 31 LE 32 - 13 LE 30 - 5 LE 38 EXTEND 5 - 5 LE",
   "30 - 2 LE 36 - 4 LE 8 - 1 LE 5 - 42 LE 158 - 2 NU 10 - 6 LE 36 - 4 LE 36 - 4 LE 40 - 8 LE 52",
   "- 12 LE 11 - 1 LE 15 - 1 LE 7 - 1 LE 2 - 1 LE 11 - 1 LE 15 - 1 LE 7 - 1 LE 2 - 3 LE 52 - 12",
   "LE 311 - 9 LE 22 - 10 LE 8 - 24 LE 6 - 1 LE 42 - 1 LE 9 - 69 LE 6 - 2 LE 1 - 1 LE 44 - 1 LE",
   "2 - 3 LE 1 - 2 LE 23 - 10 LE 23 - 9 LE 31 - 65 LE 19 - 1 LE 2 - 10 LE 22 - 10 LE 26 - 70 LE",
   "56 - 6 LE 2 - 64 LE 1 EXTEND 3 - 1 EXTEND 2 - 5 EXTEND 4 LE 4 - 1 LE 3 - 1 LE 29 - 2 EXTEND",
   "3 - 4 EXTEND 1 - 32 LE 29 - 3 LE 29 - 35 LE 8 - 1 LE 28 EXTEND 2 - 25 LE 54 - 10 LE 22 - 10",
   "LE 19 - 13 LE 18 - 110 LE 73 - 55 LE 51 - 13 LE 51 - 13 LE 36 EXTEND 4 - 8 NU 10 - 6 NU 10",
   "LE 28 - 3 EXTEND 5 - 1 LE 23 - 250 LE 42 - 1 EXTEND 2 - 3 LE 2 - 16 LE 3 - 55 EXTEND 4 LE 29",
   "- 10 LE 1 - 8 LE 22 EXTEND 11 - 31 LE 18 EXTEND 4 - 42 LE 21 - 27 LE 23 - 9 EXTEND 3 LE 53",
   "EXTEND 15 - 31 NU 10 EXTEND 1 LE 2 EXTEND 2 LE 1 - 9 EXTEND 4 LE 45 EXTEND 11 - 2 NU 1 - 4",
   "EXTEND 1 - 10 NU 1 - 2 LE 25 - 7 NU 10 - 6 EXTEND 3 LE 36 EXTEND 14 - 1 NU 10 - 4 LE 1",
   "EXTEND 2 LE 1 - 8 LE 35 EXTEND 1 - 2 LE 1 - 9 EXTEND 3 LE 48 EXTEND 14 LE 4 - 4 EXTEND 4 - 1",
   "EXTEND 2 NU 10 LE 1 - 1 LE 1 - 35 LE 18 - 1 LE 25 EXTEND 12 - 6 EXTEND 1 LE 2 EXTEND 1 - 62",
   "LE 7 - 1 LE 1 - 1 LE 4 - 1 LE 15 - 1 LE 10 - 7 LE 47 EXTEND 12 - 5 NU 10 - 6 EXTEND 4 - 1 LE",
   "8 - 2 LE 2 - 2 LE 22 - 1 LE 7 - 1 LE 2 - 1 LE 5 - 1 EXTEND 2 LE 1 EXTEND 7 - 2 EXTEND 2 - 2",
   "EXTEND 3 - 2 LE 1 - 6 EXTEND 1 - 5 LE 5 EXTEND 2 - 2 EXTEND 7 - 3 EXTEND 5 - 11 LE 10 - 1 LE",
   "1 - 2 LE 1 - 1 LE 38 - 1 LE 1 EXTEND 9 - 1 EXTEND 1 - 2 EXTEND 1 - 1 EXTEND 4 - 1 EXTEND 5",
   "LE 1 EXTEND 1 LE 1 - 13 EXTEND 2 - 29 LE 53 EXTEND 18 LE 4 - 5 NU 10 - 4 EXTEND 1 LE 3 - 30",
   "LE 48 EXTEND 20 LE 2 - 1 LE 1 - 8 NU 10 - 166 LE 47 EXTEND 7 - 2 EXTEND 9 - 23 LE 4 EXTEND 2",
   "- 34 LE 48 EXTEND 17 - 3 LE 1 - 11 NU 10 - 38 LE 43 EXTEND 13 LE 1 - 7 NU 10 - 6 NU 20 - 57",
   "EXTEND 15 - 4 NU 10 - 198 LE 44 EXTEND 15 - 101 LE 64 NU 10 - 21 LE 8 - 2 LE 1 - 2 LE 8 - 1",
   "LE 2 - 1 LE 24 EXTEND 6 - 1 EXTEND 2 - 2 EXTEND 4 LE 1 EXTEND 1 LE 1 EXTEND 2 - 12 NU 10 -",
   "70 LE 8 - 2 LE 39 EXTEND 7 - 2 EXTEND 7 LE 1 - 1 LE 1 EXTEND 1 - 27 LE 1 EXTEND 10 LE 40",
   "EXTEND 7 LE 1 EXTEND 4 - 8 EXTEND 1 - 8 LE 1 EXTEND 11 LE 46 EXTEND 16 - 3 LE 1 - 18 LE 73 -",
   "199 LE 33 - 15 NU 10 - 6 LE 9 - 1 LE 37 EXTEND 8 - 1 EXTEND 8 LE 1 - 15 NU 10 - 24 LE 30 - 2",
   "EXTEND 22 - 1 EXTEND 14 - 73 LE 7 - 1 LE 2 - 1 LE 38 EXTEND 6 - 3 EXTEND 1 - 1 EXTEND 2 - 1",
   "EXTEND 7 LE 1 EXTEND 1 - 8 NU 10 - 6 LE 6 - 1 LE 2 - 1 LE 32 EXTEND 5 - 1 EXTEND 2 - 1",
   "EXTEND 5 LE 1 - 7 NU 10 - 310 LE 19 EXTEND 4 - 9 EXTEND 2 LE 1 EXTEND 1 LE 13 - 1 LE 34",
   "EXTEND 7 - 3 EXTEND 5 - 13 NU 10 EXTEND 1 - 85 LE 1 - 79 LE 922 - 102 LE 111 - 17 LE 196 -",
   "2636 LE 97 - 15 LE 1072 FO 16 EXTEND 1 LE 6 EXTEND 15 - 10 LE 3995 - 5 LE 583 - 6841 LE 30",
   "EXTEND 18 NU 10 - 1734 LE 569 - 7 LE 31 - 1 NU 10 - 6 LE 79 - 1 NU 10 - 6 LE 30 - 2 EXTEND 5",
   "- 11 LE 48 EXTEND 7 - 9 LE 4 - 12 NU 10 - 9 LE 21 - 5 LE 19 - 432 LE 45 - 3 NU 10 - 198 LE",
   "64 - 128 LE 75 - 4 EXTEND 1 LE 1 EXTEND 55 - 7 EXTEND 4 LE 13 - 64 LE 2 - 1 LE 1 EXTEND 1 -",
   "11 EXTEND 2 - 16382 KA 4 - 1 KA 7 - 1 KA 2 - 1 KA 1 - 287 KA 3 - 50 KA 1 - 14 KA 4 - 2712 LE",
   "107 - 5 LE 13 - 3 LE 9 - 7 LE 10 - 3 EXTEND 2 - 1 FO 4 - 4172 NU 10 - 518 EXTEND 46 - 2",
   "EXTEND 23 - 542 EXTEND 5 - 3 EXTEND 6 FO 8 EXTEND 8 - 2 EXTEND 7 - 30 EXTEND 4 - 148 EXTEND",
   "3 - 443 LE 85 - 1 LE 71 - 1 LE 2 - 2 LE 1 - 2 LE 2 - 2 LE 4 - 1 LE 12 - 1 LE 1 - 1 LE 7 - 1",
   "LE 65 - 1 LE 4 - 2 LE 8 - 1 LE 7 - 1 LE 28 - 1 LE 4 - 1 LE 5 - 1 LE 1 - 3 LE 7 - 1 LE 340 -",
   "2 LE 25 - 1 LE 25 - 1 LE 31 - 1 LE 25 - 1 LE 31 - 1 LE 25 - 1 LE 31 - 1 LE 25 - 1 LE 31 - 1",
   "LE 25 - 1 LE 8 - 2 NU 50 - 512 EXTEND 55 - 4 EXTEND 50 - 8 EXTEND 1 - 14 EXTEND 1 - 22",
   "EXTEND 5 - 1 EXTEND 15 - 1104 LE 31 - 6 LE 6 - 213 EXTEND 7 - 1 EXTEND 17 - 2 EXTEND 7 - 1",
   "EXTEND 2 - 1 EXTEND 5 - 5 LE 62 - 33 EXTEND 1 - 112 LE 45 - 3 EXTEND 7 LE 7 - 2 NU 10 - 4 LE",
   "1 - 321 LE 30 EXTEND 1 - 17 LE 44 EXTEND 4 NU 10 - 470 LE 28 EXTEND 4 NU 10 - 214 LE 30",
   "EXTEND 2 LE 1 NU 10 - 485 LE 7 - 1 LE 4 - 1 LE 2 - 1 LE 15 - 1 LE 197 - 11 EXTEND 7 - 41 LE",
   "68 EXTEND 7 LE 1 - 4 NU 10 - 1190 LE 4 - 1 LE 27 - 1 LE 2 - 1 LE 1 - 2 LE 1 - 1 LE 10 - 1 LE",
   "4 - 1 LE 1 - 1 LE 1 - 6 LE 1 - 4 LE 1 - 1 LE 1 - 1 LE 1 - 1 LE 3 - 1 LE 2 - 1 LE 1 - 2 LE 1",
   "- 1 LE 1 - 1 LE 1 - 1 LE 1 - 1 LE 1 - 1 LE 2 - 1 LE 1 - 2 LE 4 - 1 LE 7 - 1 LE 4 - 1 LE 4 -",
   "1 LE 1 - 1 LE 10 - 1 LE 17 - 5 LE 3 - 1 LE 5 - 1 LE 17 - 628 LE 26 - 6 LE 26 - 6 LE 26 - 92",
   "RI 26 - 507 EXTEND 5 - 2032 NU 10 - 787463 FO 1 - 30 EXTEND 96 - 128 EXTEND 240 - 196112"]

/-! ## Sentences -/

def sentenceBreakNames : List (String × String) :=
  [("at", "AT"), ("aterm", "AT"), ("cl", "CL"), ("close", "CL"), ("cr", "CR"), ("ex", "EX"),
   ("extend", "EX"), ("fo", "FO"), ("format", "FO"), ("le", "LE"), ("lf", "LF"), ("lo", "LO"),
   ("lower", "LO"), ("nu", "NU"), ("numeric", "NU"), ("oletter", "LE"), ("sc", "SC"),
   ("scontinue", "SC"), ("se", "SE"), ("sep", "SE"), ("sp", "SP"), ("st", "ST"),
   ("sterm", "ST"), ("up", "UP"), ("upper", "UP")]

def sentenceBreakRuns : List ValueRun := valueRuns
  ["- 9 SP 1 LF 1 SP 2 CR 1 - 18 SP 1 ST 1 CL 1 - 4 CL 3 - 2 SC 2 AT 1 - 1 NU 10 SC 2 - 3 ST 1 -",
   "1 UP 26 CL 1 - 1 CL 1 - 3 LO 26 CL 1 - 1 CL 1 - 7 SE 1 - 26 SP 1 - 9 LO 1 CL 1 - 1 FO 1 - 7",
   "LO 1 - 4 LO 1 CL 1 - 4 UP 23 - 1 UP 7 LO 24 - 1 LO 8 UP 1 LO 1 UP 1 LO 1 UP 1 LO 1 UP 1 LO 1",
   "UP 1 LO 1 UP 1 LO 1 UP 1 LO 1 UP 1 LO 1 UP 1 LO 1 UP 1 LO 1 UP 1 LO 1 UP 1 LO 1 UP 1 LO 1 UP",
   "1 LO 1 UP 1 LO 1 UP 1 LO 1 UP 1 LO 1 UP 1 LO 1 UP 1 LO 1 UP 1 LO 1 UP 1 LO 1 UP 1 LO 1 UP 1",
   "LO 1 UP 1 LO 1 UP 1 LO 1 UP 1 LO 1 UP 1 LO 1 UP 1 LO 2 UP 1 LO 1 UP 1 LO 1 UP 1 LO 1 UP 1 LO",
   "1 UP 1 LO 1 UP 1 LO 1 UP 1 LO 1 UP 1 LO 2 UP 1 LO 1 UP 1 LO 1 UP 1 LO 1 UP 1 LO 1 UP 1 LO 1",
   "UP 1 LO 1 UP 1 LO 1 UP 1 LO 1 UP 1 LO 1 UP 1 LO 1 UP 1 LO 1 UP 1 LO 1 UP 1 LO 1 UP 1 LO 1 UP",
   "1 LO 1 UP 1 LO 1 UP 1 LO 1 UP 1 LO 1 UP 1 LO 1 UP 1 LO 1 UP 1 LO 1 UP 1 LO 1 UP 1 LO 1 UP 2",
   "LO 1 UP 1 LO 1 UP 1 LO 3 UP 2 LO 1 UP 1 LO 1 UP 2 LO 1 UP 3 LO 2 UP 4 LO 1 UP 2 LO 1 UP 3 LO",
   "3 UP 2 LO 1 UP 2 LO 1 UP 1 LO 1 UP 1 LO 1 UP 2 LO 1 UP 1 LO 2 UP 1 LO 1 UP 2 LO 1 UP 3 LO 1",
   "UP 1 LO 1 UP 2 LO 2 LE 1 UP 1 LO 3 LE 4 UP 2 LO 1 UP 2 LO 1 UP 2 LO 1 UP 1 LO 1 UP 1 LO 1 UP",
   "1 LO 1 UP 1 LO 1 UP 1 LO 1 UP 1 LO 1 UP 1 LO 1 UP 1 LO 2 UP 1 LO 1 UP 1 LO 1 UP 1 LO 1 UP 1",
   "LO 1 UP 1 LO 1 UP 1 LO 1 UP 1 LO 1 UP 1 LO 1 UP 1 LO 2 UP 2 LO 1 UP 1 LO 1 UP 3 LO 1 UP 1 LO",
   "1 UP 1 LO 1 UP 1 LO 1 UP 1 LO 1 UP 1 LO 1 UP 1 LO 1 UP 1 LO 1 UP 1 LO 1 UP 1 LO 1 UP 1 LO 1",
   "UP 1 LO 1 UP 1 LO 1 UP 1 LO 1 UP 1 LO 1 UP 1 LO 1 UP 1 LO 1 UP 1 LO 1 UP 1 LO 1 UP 1 LO 1 UP",
   "1 LO 1 UP 1 LO 1 UP 1 LO 1 UP 1 LO 1 UP 1 LO 1 UP 1 LO 1 UP 1 LO 1 UP 1 LO 1 UP 1 LO 1 UP 1",
   "LO 7 UP 2 LO 1 UP 2 LO 2 UP 1 LO 1 UP 4 LO 1 UP 1 LO 1 UP 1 LO 1 UP 1 LO 1 UP 1 LO 69 LE 1",
   "LO 36 LE 7 LO 2 - 4 LE 12 - 14 LO 5 - 7 LE 1 - 1 LE 1 - 17 EX 112 UP 1 LO 1 UP 1 LO 1 LE 1 -",
   "1 UP 1 LO 1 - 2 LO 4 SC 1 UP 1 - 6 UP 1 - 1 UP 3 - 1 UP 1 - 1 UP 2 LO 1 UP 17 - 1 UP 9 LO 35",
   "UP 1 LO 2 UP 3 LO 3 UP 1 LO 1 UP 1 LO 1 UP 1 LO 1 UP 1 LO 1 UP 1 LO 1 UP 1 LO 1 UP 1 LO 1 UP",
   "1 LO 1 UP 1 LO 1 UP 1 LO 1 UP 1 LO 1 UP 1 LO 5 UP 1 LO 1 - 1 UP 1 LO 1 UP 2 LO 2 UP 51 LO 48",
   "UP 1 LO 1 UP 1 LO 1 UP 1 LO 1 UP 1 LO 1 UP 1 LO 1 UP 1 LO 1 UP 1 LO 1 UP 1 LO 1 UP 1 LO 1 UP",
   "1 LO 1 UP 1 LO 1 UP 1 LO 1 UP 1 LO 1 UP 1 LO 1 UP 1 LO 1 UP 1 LO 1 UP 1 LO 1 - 1 EX 7 UP 1",
   "LO 1 UP 1 LO 1 UP 1 LO 1 UP 1 LO 1 UP 1 LO 1 UP 1 LO 1 UP 1 LO 1 UP 1 LO 1 UP 1 LO 1 UP 1 LO",
   "1 UP 1 LO 1 UP 1 LO 1 UP 1 LO 1 UP 1 LO 1 UP 1 LO 1 UP 1 LO 1 UP 1 LO 1 UP 1 LO 1 UP 1 LO 1",
   "UP 1 LO 1 UP 1 LO 1 UP 1 LO 1 UP 1 LO 1 UP 1 LO 1 UP 1 LO 1 UP 1 LO 1 UP 1 LO 1 UP 2 LO 1 UP",
   "1 LO 1 UP 1 LO 1 UP 1 LO 1 UP 1 LO 1 UP 1 LO 1 UP 1 LO 2 UP 1 LO 1 UP 1 LO 1 UP 1 LO 1 UP 1",
   "LO 1 UP 1 LO 1 UP 1 LO 1 UP 1 LO 1 UP 1 LO 1 UP 1 LO 1 UP 1 LO 1 UP 1 LO 1 UP 1 LO 1 UP 1 LO",
   "1 UP 1 LO 1 UP 1 LO 1 UP 1 LO 1 UP 1 LO 1 UP 1 LO 1 UP 1 LO 1 UP 1 LO 1 UP 1 LO 1 UP 1 LO 1",
   "UP 1 LO 1 UP 1 LO 1 UP 1 LO 1 UP 1 LO 1 UP 1 LO 1 UP 1 LO 1 UP 1 LO 1 UP 1 LO 1 UP 1 LO 1 UP",
   "1 LO 1 UP 1 LO 1 UP 1 LO 1 UP 1 LO 1 UP 1 LO 1 UP 1 LO 1 UP 1 LO 1 UP 1 LO 1 UP 1 LO 1 UP 1",
   "LO 1 UP 1 LO 1 UP 1 LO 1 UP 1 LO 1 UP 1 LO 1 UP 1 LO 1 UP 1 LO 1 UP 1 LO 1 - 1 UP 38 - 2 LE",
   "1 - 3 SC 1 - 2 LO 41 ST 1 - 7 EX 45 - 1 EX 1 - 1 EX 2 - 1 EX 2 - 1 EX 1 - 8 LE 27 - 4 LE 5 -",
   "12 NU 6 - 6 SC 2 - 2 EX 11 - 1 FO 1 ST 3 LE 43 EX 21 NU 10 - 1 NU 2 - 1 LE 2 EX 1 LE 99 ST 1",
   "LE 1 EX 7 NU 1 - 1 EX 6 LE 2 EX 2 - 1 EX 4 LE 2 NU 10 LE 3 - 2 LE 1 ST 3 - 12 FO 1 LE 1 EX 1",
   "LE 30 EX 27 - 2 LE 89 EX 11 LE 1 - 14 NU 10 LE 33 EX 9 LE 2 - 2 SC 1 ST 1 LE 1 - 2 EX 1 - 2",
   "LE 22 EX 4 LE 1 EX 9 LE 1 EX 3 LE 1 EX 5 - 9 ST 1 - 1 ST 1 - 3 ST 2 - 1 LE 25 EX 3 - 4 LE 11",
   "- 5 LE 24 - 1 LE 6 - 1 NU 2 - 5 EX 9 LE 42 EX 24 NU 1 EX 33 LE 54 EX 3 LE 1 EX 18 LE 1 EX 7",
   "LE 10 EX 2 ST 2 NU 10 - 1 LE 16 EX 3 - 1 LE 8 - 2 LE 2 - 2 LE 22 - 1 LE 7 - 1 LE 1 - 3 LE 4",
   "- 2 EX 1 LE 1 EX 7 - 2 EX 2 - 2 EX 3 LE 1 - 8 EX 1 - 4 LE 2 - 1 LE 3 EX 2 - 2 NU 10 LE 2 -",
   "10 LE 1 - 1 EX 1 - 2 EX 3 - 1 LE 6 - 4 LE 2 - 2 LE 22 - 1 LE 7 - 1 LE 2 - 1 LE 2 - 1 LE 2 -",
   "2 EX 1 - 1 EX 5 - 4 EX 2 - 2 EX 3 - 3 EX 1 - 7 LE 4 - 1 LE 1 - 7 NU 10 EX 2 LE 3 EX 1 - 11",
   "EX 3 - 1 LE 9 - 1 LE 3 - 1 LE 22 - 1 LE 7 - 1 LE 2 - 1 LE 5 - 2 EX 1 LE 1 EX 8 - 1 EX 3 - 1",
   "EX 3 - 2 LE 1 - 15 LE 2 EX 2 - 2 NU 10 - 9 LE 1 EX 6 - 1 EX 3 - 1 LE 8 - 2 LE 2 - 2 LE 22 -",
   "1 LE 7 - 1 LE 2 - 1 LE 5 - 2 EX 1 LE 1 EX 7 - 2 EX 2 - 2 EX 3 - 7 EX 3 - 4 LE 2 - 1 LE 3 EX",
   "2 - 2 NU 10 - 1 LE 1 - 16 EX 1 LE 1 - 1 LE 6 - 3 LE 3 - 1 LE 4 - 3 LE 2 - 1 LE 1 - 1 LE 2 -",
   "3 LE 2 - 3 LE 3 - 3 LE 12 - 4 EX 5 - 3 EX 3 - 1 EX 4 - 2 LE 1 - 6 EX 1 - 14 NU 10 - 16 EX 5",
   "LE 8 - 1 LE 3 - 1 LE 23 - 1 LE 16 - 2 EX 1 LE 1 EX 7 - 1 EX 3 - 1 EX 4 - 7 EX 2 - 1 LE 3 - 2",
   "LE 1 - 2 LE 2 EX 2 - 2 NU 10 - 16 LE 1 EX 3 - 1 LE 8 - 1 LE 3 - 1 LE 23 - 1 LE 10 - 1 LE 5 -",
   "2 EX 1 LE 1 EX 7 - 1 EX 3 - 1 EX 4 - 7 EX 2 - 6 LE 2 - 1 LE 2 EX 2 - 2 NU 10 - 1 LE 2 EX 1 -",
   "12 EX 4 LE 9 - 1 LE 3 - 1 LE 41 EX 2 LE 1 EX 7 - 1 EX 3 - 1 EX 4 LE 1 - 5 LE 3 EX 1 - 7 LE 3",
   "EX 2 - 2 NU 10 - 10 LE 6 - 1 EX 3 - 1 LE 18 - 3 LE 24 - 1 LE 9 - 1 LE 1 - 2 LE 7 - 3 EX 1 -",
   "4 EX 6 - 1 EX 1 - 1 EX 8 - 6 NU 10 - 2 EX 2 - 13 LE 48 EX 1 LE 2 EX 7 - 5 LE 7 EX 8 - 1 NU",
   "10 - 39 LE 2 - 1 LE 1 - 1 LE 5 - 1 LE 24 - 1 LE 1 - 1 LE 10 EX 1 LE 2 EX 9 LE 1 - 2 LE 5 - 1",
   "LE 1 - 1 EX 7 - 1 NU 10 - 2 LE 4 - 32 LE 1 - 23 EX 2 - 6 NU 10 - 11 EX 1 - 1 EX 1 - 1 EX 1",
   "CL 4 EX 2 LE 8 - 1 LE 36 - 4 EX 20 - 1 EX 2 LE 5 EX 11 - 1 EX 36 - 9 EX 1 - 57 LE 43 EX 20",
   "LE 1 NU 10 ST 2 - 4 LE 6 EX 4 LE 4 EX 3 LE 1 EX 3 LE 2 EX 7 LE 3 EX 4 LE 13 EX 12 LE 1 EX 1",
   "NU 10 EX 4 - 2 UP 38 - 1 UP 1 - 5 UP 1 - 2 LE 43 - 1 LO 1 LE 332 - 1 LE 4 - 2 LE 7 - 1 LE 1",
   "- 1 LE 4 - 2 LE 41 - 1 LE 4 - 2 LE 33 - 1 LE 4 - 2 LE 7 - 1 LE 1 - 1 LE 4 - 2 LE 15 - 1 LE",
   "57 - 1 LE 4 - 2 LE 67 - 2 EX 3 - 2 ST 1 - 4 ST 2 - 23 LE 16 - 16 UP 86 - 2 LO 6 - 3 LE 620 -",
   "1 ST 1 LE 17 SP 1 LE 26 CL 2 - 3 LE 75 - 3 LE 11 - 7 LE 18 EX 4 - 9 LE 19 EX 3 ST 2 - 9 LE",
   "18 EX 2 - 12 LE 13 - 1 LE 3 - 1 EX 2 - 12 LE 52 EX 32 ST 2 - 1 LE 1 - 4 LE 1 EX 1 - 2 NU 10",
   "- 24 SC 1 ST 1 - 4 SC 1 ST 1 - 1 EX 3 FO 1 EX 1 NU 10 - 6 LE 89 - 7 LE 5 EX 2 LE 34 EX 1 LE",
   "1 - 5 LE 70 - 10 LE 31 - 1 EX 12 - 4 EX 12 - 8 ST 2 NU 10 LE 30 - 2 LE 5 - 11 LE 44 - 4 LE",
   "26 - 6 NU 11 - 37 LE 23 EX 5 - 4 LE 53 EX 10 - 1 EX 29 - 2 EX 1 NU 10 - 6 NU 10 - 13 LE 1 ST",
   "4 - 4 EX 31 - 49 EX 5 LE 47 EX 17 LE 8 - 1 ST 2 NU 10 ST 2 - 2 ST 2 - 11 EX 9 - 9 ST 3 EX 3",
   "LE 30 EX 13 LE 2 NU 10 LE 44 EX 14 - 12 LE 36 EX 20 - 3 ST 2 - 3 NU 10 - 3 LE 3 NU 10 LE 36",
   "ST 2 LO 9 UP 1 LO 1 - 5 LE 43 - 2 LE 3 - 16 EX 3 - 1 EX 21 LE 4 EX 1 LE 6 EX 1 LE 2 EX 3 LE",
   "1 - 5 LO 192 EX 64 UP 1 LO 1 UP 1 LO 1 UP 1 LO 1 UP 1 LO 1 UP 1 LO 1 UP 1 LO 1 UP 1 LO 1 UP",
   "1 LO 1 UP 1 LO 1 UP 1 LO 1 UP 1 LO 1 UP 1 LO 1 UP 1 LO 1 UP 1 LO 1 UP 1 LO 1 UP 1 LO 1 UP 1",
   "LO 1 UP 1 LO 1 UP 1 LO 1 UP 1 LO 1 UP 1 LO 1 UP 1 LO 1 UP 1 LO 1 UP 1 LO 1 UP 1 LO 1 UP 1 LO",
   "1 UP 1 LO 1 UP 1 LO 1 UP 1 LO 1 UP 1 LO 1 UP 1 LO 1 UP 1 LO 1 UP 1 LO 1 UP 1 LO 1 UP 1 LO 1",
   "UP 1 LO 1 UP 1 LO 1 UP 1 LO 1 UP 1 LO 1 UP 1 LO 1 UP 1 LO 1 UP 1 LO 1 UP 1 LO 1 UP 1 LO 1 UP",
   "1 LO 1 UP 1 LO 1 UP 1 LO 1 UP 1 LO 1 UP 1 LO 1 UP 1 LO 1 UP 1 LO 1 UP 1 LO 1 UP 1 LO 1 UP 1",
   "LO 1 UP 1 LO 1 UP 1 LO 1 UP 1 LO 1 UP 1 LO 1 UP 1 LO 1 UP 1 LO 1 UP 1 LO 1 UP 1 LO 1 UP 1 LO",
   "1 UP 1 LO 1 UP 1 LO 1 UP 1 LO 1 UP 1 LO 1 UP 1 LO 1 UP 1 LO 1 UP 1 LO 1 UP 1 LO 1 UP 1 LO 1",
   "UP 1 LO 1 UP 1 LO 1 UP 1 LO 9 UP 1 LO 1 UP 1 LO 1 UP 1 LO 1 UP 1 LO 1 UP 1 LO 1 UP 1 LO 1 UP",
   "1 LO 1 UP 1 LO 1 UP 1 LO 1 UP 1 LO 1 UP 1 LO 1 UP 1 LO 1 UP 1 LO 1 UP 1 LO 1 UP 1 LO 1 UP 1",
   "LO 1 UP 1 LO 1 UP 1 LO 1 UP 1 LO 1 UP 1 LO 1 UP 1 LO 1 UP 1 LO 1 UP 1 LO 1 UP 1 LO 1 UP 1 LO",
   "1 UP 1 LO 1 UP 1 LO 1 UP 1 LO 1 UP 1 LO 1 UP 1 LO 1 UP 1 LO 1 UP 1 LO 1 UP 1 LO 1 UP 1 LO 1",
   "UP 1 LO 1 UP 1 LO 1 UP 1 LO 1 UP 1 LO 1 UP 1 LO 1 UP 1 LO 1 UP 1 LO 1 UP 1 LO 1 UP 1 LO 1 UP",
   "1 LO 1 UP 1 LO 1 UP 1 LO 1 UP 1 LO 1 UP 1 LO 1 UP 1 LO 9 UP 8 LO 6 - 2 UP 6 - 2 LO 8 UP 8 LO",
   "8 UP 8 LO 6 - 2 UP 6 - 2 LO 8 - 1 UP 1 - 1 UP 1 - 1 UP 1 - 1 UP 1 LO 8 UP 8 LO 14 - 2 LO 8",
   "UP 8 LO 8 UP 8 LO 8 UP 8 LO 5 - 1 LO 2 UP 5 - 1 LO 1 - 3 LO 3 - 1 LO 2 UP 5 - 3 LO 4 - 2 LO",
   "2 UP 4 - 4 LO 8 UP 5 - 5 LO 3 - 1 LO 2 UP 5 - 3 SP 11 FO 1 EX 2 FO 2 - 3 SC 2 - 3 CL 8 - 4",
   "AT 1 - 3 SE 2 FO 5 SP 1 - 9 CL 2 - 1 ST 2 - 7 CL 2 ST 3 - 21 SP 1 FO 5 - 1 FO 10 - 1 LO 1 -",
   "11 CL 2 LO 1 - 13 CL 2 - 1 LO 13 - 51 EX 33 - 17 UP 1 - 4 UP 1 - 2 LO 1 UP 3 LO 2 UP 3 LO 1",
   "- 1 UP 1 - 3 UP 5 - 6 UP 1 - 1 UP 1 - 1 UP 1 - 1 UP 4 - 1 LO 1 UP 4 LO 1 LE 4 LO 1 - 2 LO 2",
   "UP 2 - 5 UP 1 LO 4 - 4 LO 1 - 17 UP 16 LO 16 LE 3 UP 1 LO 1 LE 4 - 383 CL 4 - 29 CL 2 - 395",
   "UP 26 LO 26 - 625 CL 6 - 7 CL 14 - 79 CL 2 - 31 CL 10 - 403 CL 22 - 63 CL 4 - 32 CL 2 - 514",
   "UP 48 LO 48 UP 1 LO 1 UP 3 LO 2 UP 1 LO 1 UP 1 LO 1 UP 1 LO 1 UP 4 LO 1 UP 1 LO 2 UP 1 LO 8",
   "UP 3 LO 1 UP 1 LO 1 UP 1 LO 1 UP 1 LO 1 UP 1 LO 1 UP 1 LO 1 UP 1 LO 1 UP 1 LO 1 UP 1 LO 1 UP",
   "1 LO 1 UP 1 LO 1 UP 1 LO 1 UP 1 LO 1 UP 1 LO 1 UP 1 LO 1 UP 1 LO 1 UP 1 LO 1 UP 1 LO 1 UP 1",
   "LO 1 UP 1 LO 1 UP 1 LO 1 UP 1 LO 1 UP 1 LO 1 UP 1 LO 1 UP 1 LO 1 UP 1 LO 1 UP 1 LO 1 UP 1 LO",
   "1 UP 1 LO 1 UP 1 LO 1 UP 1 LO 1 UP 1 LO 1 UP 1 LO 1 UP 1 LO 1 UP 1 LO 1 UP 1 LO 1 UP 1 LO 1",
   "UP 1 LO 1 UP 1 LO 1 UP 1 LO 1 UP 1 LO 1 UP 1 LO 1 UP 1 LO 1 UP 1 LO 1 UP 1 LO 1 UP 1 LO 1 UP",
   "1 LO 1 UP 1 LO 1 UP 1 LO 1 UP 1 LO 2 - 6 UP 1 LO 1 UP 1 LO 1 EX 3 UP 1 LO 1 - 5 ST 3 - 4 LO",
   "38 - 1 LO 1 - 5 LO 1 - 2 LE 56 - 7 LE 1 - 15 EX 1 LE 23 - 9 LE 7 - 1 LE 7 - 1 LE 7 - 1 LE 7",
   "- 1 LE 7 - 1 LE 7 - 1 LE 7 - 1 LE 7 - 1 EX 32 CL 14 - 14 CL 2 - 2 CL 10 - 4 ST 1 LE 1 - 12",
   "ST 1 - 5 CL 1 - 16 ST 2 CL 8 - 419 SP 1 SC 1 ST 1 - 2 LE 3 CL 10 - 2 CL 8 - 1 CL 3 - 1 LE 9",
   "EX 6 - 1 LE 5 - 2 LE 5 - 4 LE 86 - 2 EX 2 - 2 LE 3 - 1 LE 90 - 1 LE 4 - 5 LE 43 - 1 LE 94 -",
   "17 LE 32 - 48 LE 16 - 512 LE 6592 - 64 LE 22157 - 67 LE 46 - 1 ST 1 LE 269 - 1 ST 2 LE 16 NU",
   "10 LE 2 - 20 UP 1 LO 1 UP 1 LO 1 UP 1 LO 1 UP 1 LO 1 UP 1 LO 1 UP 1 LO 1 UP 1 LO 1 UP 1 LO 1",
   "UP 1 LO 1 UP 1 LO 1 UP 1 LO 1 UP 1 LO 1 UP 1 LO 1 UP 1 LO 1 UP 1 LO 1 UP 1 LO 1 UP 1 LO 1 UP",
   "1 LO 1 UP 1 LO 1 UP 1 LO 1 UP 1 LO 1 UP 1 LO 1 UP 1 LO 1 LE 1 EX 4 - 1 EX 10 - 1 LE 1 UP 1",
   "LO 1 UP 1 LO 1 UP 1 LO 1 UP 1 LO 1 UP 1 LO 1 UP 1 LO 1 UP 1 LO 1 UP 1 LO 1 UP 1 LO 1 UP 1 LO",
   "1 UP 1 LO 1 UP 1 LO 1 UP 1 LO 1 UP 1 LO 3 EX 2 LE 80 EX 2 - 1 ST 1 - 3 ST 1 - 31 LE 9 - 2 UP",
   "1 LO 1 UP 1 LO 1 UP 1 LO 1 UP 1 LO 1 UP 1 LO 1 UP 1 LO 1 UP 1 LO 3 UP 1 LO 1 UP 1 LO 1 UP 1",
   "LO 1 UP 1 LO 1 UP 1 LO 1 UP 1 LO 1 UP 1 LO 1 UP 1 LO 1 UP 1 LO 1 UP 1 LO 1 UP 1 LO 1 UP 1 LO",
   "1 UP 1 LO 1 UP 1 LO 1 UP 1 LO 1 UP 1 LO 1 UP 1 LO 1 UP 1 LO 1 UP 1 LO 1 UP 1 LO 1 UP 1 LO 1",
   "UP 1 LO 1 UP 1 LO 1 UP 1 LO 1 UP 1 LO 1 UP 1 LO 1 UP 1 LO 1 UP 1 LO 1 UP 1 LO 1 UP 1 LO 1 UP",
   "1 LO 10 UP 1 LO 1 UP 1 LO 1 UP 2 LO 1 UP 1 LO 1 UP 1 LO 1 UP 1 LO 1 UP 1 LO 1 LE 1 - 2 UP 1",
   "LO 1 UP 1 LO 1 LE 1 UP 1 LO 1 UP 1 LO 3 UP 1 LO 1 UP 1 LO 1 UP 1 LO 1 UP 1 LO 1 UP 1 LO 1 UP",
   "1 LO 1 UP 1 LO 1 UP 1 LO 1 UP 1 LO 1 UP 1 LO 1 UP 5 LO 1 UP 5 LO 1 UP 1 LO 1 UP 1 LO 1 UP 1",
   "LO 1 UP 1 LO 1 UP 1 LO 1 UP 1 LO 1 UP 1 LO 1 UP 4 LO 1 UP 1 LO 1 UP 2 LO 1 - 2 UP 1 LO 1 - 1",
   "LO 1 - 1 LO 1 UP 1 LO 1 UP 1 LO 1 UP 1 LO 1 UP 1 - 21 LO 3 UP 1 LO 1 LE 1 LO 3 LE 7 EX 1 LE",
   "3 EX 1 LE 4 EX 1 LE 23 EX 5 - 4 EX 1 - 19 LE 52 - 2 ST 2 - 8 EX 2 LE 50 EX 18 - 8 ST 2 NU 10",
   "- 6 EX 18 LE 6 - 3 LE 1 - 1 LE 2 EX 1 NU 10 LE 28 EX 8 - 1 ST 1 LE 23 EX 13 - 12 LE 29 - 3",
   "EX 4 LE 47 EX 14 - 7 ST 2 - 5 LE 1 NU 10 - 6 LE 5 EX 1 LE 10 NU 10 LE 5 - 1 LE 41 EX 14 - 9",
   "LE 3 EX 1 LE 8 EX 2 - 2 NU 10 - 3 ST 3 LE 23 - 3 LE 1 EX 3 LE 50 EX 1 LE 1 EX 3 LE 2 EX 2 LE",
   "5 EX 2 LE 1 EX 1 LE 1 - 24 LE 3 - 2 LE 11 EX 5 ST 2 LE 3 EX 2 - 10 LE 6 - 2 LE 6 - 2 LE 6 -",
   "9 LE 7 - 1 LE 7 - 1 LO 43 - 1 LO 14 - 6 LO 80 LE 35 EX 8 ST 1 EX 2 - 2 NU 10 - 6 LE 11172 -",
   "12 LE 23 - 4 LE 49 - 8452 LE 366 - 2 LE 106 - 38 LO 7 - 12 LO 5 - 5 LE 1 EX 1 LE 10 - 1 LE",
   "13 - 1 LE 5 - 1 LE 1 - 1 LE 2 - 1 LE 2 - 1 LE 108 - 33 LE 363 CL 2 - 16 LE 64 - 2 LE 54 - 40",
   "LE 12 - 4 EX 16 SC 2 ST 1 SC 2 ST 2 CL 2 - 7 EX 16 - 1 SC 2 - 2 CL 16 - 2 CL 2 - 7 SC 2 AT 1",
   "- 1 SC 2 ST 2 SC 1 CL 6 - 4 SC 1 - 12 LE 5 - 1 LE 135 - 2 FO 1 - 1 ST 1 - 6 CL 2 - 2 SC 2 AT",
   "1 - 1 NU 10 SC 2 - 3 ST 1 - 1 UP 26 CL 1 - 1 CL 1 - 3 LO 26 CL 1 - 1 CL 1 - 1 CL 2 ST 1 CL 2",
   "SC 1 - 1 LE 56 EX 2 LE 31 - 3 LE 6 - 2 LE 6 - 2 LE 6 - 2 LE 3 - 28 FO 3 - 4 LE 12 - 1 LE 26",
   "- 1 LE 19 - 1 LE 2 - 1 LE 15 - 2 LE 14 - 34 LE 123 - 69 LE 53 - 136 EX 1 - 130 LE 29 - 3 LE",
   "49 - 15 EX 1 - 31 LE 32 - 13 LE 30 - 5 LE 38 EX 5 - 5 LE 30 - 2 LE 36 - 4 LE 8 - 1 LE 5 - 42",
   "UP 40 LO 40 LE 78 - 2 NU 10 - 6 UP 36 - 4 LO 36 - 4 LE 40 - 8 LE 52 - 12 UP 11 - 1 UP 15 - 1",
   "UP 7 - 1 UP 2 - 1 LO 11 - 1 LO 15 - 1 LO 7 - 1 LO 2 - 3 LE 52 - 12 LE 311 - 9 LE 22 - 10 LE",
   "8 - 24 LO 1 LE 2 LO 3 - 1 LO 42 - 1 LO 9 - 69 LE 6 - 2 LE 1 - 1 LE 44 - 1 LE 2 - 3 LE 1 - 2",
   "LE 23 - 10 LE 23 - 9 LE 31 - 65 LE 19 - 1 LE 2 - 10 LE 22 - 10 LE 26 - 70 LE 56 - 6 LE 2 -",
   "64 LE 1 EX 3 - 1 EX 2 - 5 EX 4 LE 4 - 1 LE 3 - 1 LE 29 - 2 EX 3 - 4 EX 1 - 22 ST 2 - 8 LE 29",
   "- 3 LE 29 - 35 LE 8 - 1 LE 28 EX 2 - 25 LE 54 - 10 LE 22 - 10 LE 19 - 13 LE 18 - 110 LE 73 -",
   "55 UP 51 - 13 LO 51 - 13 LE 36 EX 4 - 8 NU 10 - 6 NU 10 LE 6 UP 22 - 3 EX 5 - 1 LE 1 LO 22 -",
   "250 LE 42 - 1 EX 2 - 3 LE 2 - 16 LE 3 - 55 EX 4 LE 29 - 10 LE 1 - 8 LE 22 EX 11 - 4 ST 5 -",
   "22 LE 18 EX 4 ST 4 - 38 LE 21 - 27 LE 23 - 9 EX 3 LE 53 EX 15 ST 2 - 29 NU 10 EX 1 LE 2 EX 2",
   "LE 1 - 9 EX 4 LE 45 EX 11 - 2 NU 1 ST 4 EX 1 - 10 NU 1 - 2 LE 25 - 7 NU 10 - 6 EX 3 LE 36 EX",
   "14 - 1 NU 10 - 1 ST 3 LE 1 EX 2 LE 1 - 8 LE 35 EX 1 - 2 LE 1 - 9 EX 3 LE 48 EX 14 LE 4 ST 2",
   "- 2 EX 4 ST 1 EX 2 NU 10 LE 1 - 1 LE 1 - 1 ST 2 - 32 LE 18 - 1 LE 25 EX 12 ST 2 - 1 ST 2 - 1",
   "EX 1 LE 2 EX 1 - 62 LE 7 - 1 LE 1 - 1 LE 4 - 1 LE 15 - 1 LE 10 ST 1 - 6 LE 47 EX 12 - 5 NU",
   "10 - 6 EX 4 - 1 LE 8 - 2 LE 2 - 2 LE 22 - 1 LE 7 - 1 LE 2 - 1 LE 5 - 1 EX 2 LE 1 EX 7 - 2 EX",
   "2 - 2 EX 3 - 2 LE 1 - 6 EX 1 - 5 LE 5 EX 2 - 2 EX 7 - 3 EX 5 - 11 LE 10 - 1 LE 1 - 2 LE 1 -",
   "1 LE 38 - 1 LE 1 EX 9 - 1 EX 1 - 2 EX 1 - 1 EX 4 - 1 EX 5 LE 1 EX 1 LE 1 ST 2 - 11 EX 2 - 29",
   "LE 53 EX 18 LE 4 ST 2 - 3 NU 10 - 4 EX 1 LE 3 - 30 LE 48 EX 20 LE 2 - 1 LE 1 - 8 NU 10 - 166",
   "LE 47 EX 7 - 2 EX 9 - 1 ST 2 - 5 ST 15 LE 4 EX 2 - 34 LE 48 EX 17 ST 2 - 1 LE 1 - 11 NU 10 -",
   "38 LE 43 EX 13 LE 1 - 7 NU 10 - 6 NU 20 - 28 LE 27 - 2 EX 15 - 4 NU 10 - 2 ST 3 - 1 LE 7 -",
   "185 LE 44 EX 15 - 101 UP 32 LO 32 NU 10 - 21 LE 8 - 2 LE 1 - 2 LE 8 - 1 LE 2 - 1 LE 24 EX 6",
   "- 1 EX 2 - 2 EX 4 LE 1 EX 1 LE 1 EX 2 ST 1 - 1 ST 1 - 9 NU 10 - 70 LE 8 - 2 LE 39 EX 7 - 2",
   "EX 7 LE 1 - 1 LE 1 EX 1 - 27 LE 1 EX 10 LE 40 EX 7 LE 1 EX 4 - 3 ST 2 - 3 EX 1 - 8 LE 1 EX",
   "11 LE 46 EX 16 - 1 ST 2 LE 1 - 18 LE 73 - 199 LE 33 - 15 NU 10 - 6 LE 9 - 1 LE 37 EX 8 - 1",
   "EX 8 LE 1 ST 2 - 13 NU 10 - 24 LE 30 - 2 EX 22 - 1 EX 14 - 73 LE 7 - 1 LE 2 - 1 LE 38 EX 6 -",
   "3 EX 1 - 1 EX 2 - 1 EX 7 LE 1 EX 1 - 8 NU 10 - 6 LE 6 - 1 LE 2 - 1 LE 32 EX 5 - 1 EX 2 - 1",
   "EX 5 LE 1 - 7 NU 10 - 310 LE 19 EX 4 ST 2 - 7 EX 2 LE 1 EX 1 LE 13 - 1 LE 34 EX 7 - 3 EX 5",
   "ST 2 - 11 NU 10 EX 1 - 85 LE 1 - 79 LE 922 - 102 LE 111 - 17 LE 196 - 2636 LE 97 - 15 LE",
   "1072 FO 16 EX 1 LE 6 EX 15 - 10 LE 3995 - 5 LE 583 - 6841 LE 30 EX 18 NU 10 - 1734 LE 569 -",
   "7 LE 31 - 1 NU 10 - 4 ST 2 LE 79 - 1 NU 10 - 6 LE 30 - 2 EX 5 ST 1 - 10 LE 48 EX 7 ST 2 - 7",
   "LE 4 ST 1 - 11 NU 10 - 9 LE 21 - 5 LE 19 - 432 LE 45 - 1 ST 2 NU 10 - 198 UP 32 LO 32 - 24",
   "ST 1 - 103 LE 75 - 4 EX 1 LE 1 EX 55 - 7 EX 4 LE 13 - 64 LE 2 - 1 LE 1 EX 1 - 11 EX 2 - 14",
   "LE 6136 - 8 LE 1238 - 41 LE 10 - 8935 LE 4 - 1 LE 7 - 1 LE 2 - 1 LE 291 - 15 LE 1 - 29 LE 3",
   "- 2 LE 1 - 14 LE 4 - 8 LE 396 - 2308 LE 107 - 5 LE 13 - 3 LE 9 - 7 LE 10 - 3 EX 2 ST 1 FO 4",
   "- 4172 NU 10 - 518 EX 46 - 2 EX 23 - 542 EX 5 - 3 EX 6 FO 8 EX 8 - 2 EX 7 - 30 EX 4 - 148 EX",
   "3 - 443 UP 26 LO 26 UP 26 LO 7 - 1 LO 18 UP 26 LO 26 UP 1 - 1 UP 2 - 2 UP 1 - 2 UP 2 - 2 UP",
   "4 - 1 UP 8 LO 4 - 1 LO 1 - 1 LO 7 - 1 LO 11 UP 26 LO 26 UP 2 - 1 UP 4 - 2 UP 8 - 1 UP 7 - 1",
   "LO 26 UP 2 - 1 UP 4 - 1 UP 5 - 1 UP 1 - 3 UP 7 - 1 LO 26 UP 26 LO 26 UP 26 LO 26 UP 26 LO 26",
   "UP 26 LO 26 UP 26 LO 26 UP 26 LO 28 - 2 UP 25 - 1 LO 25 - 1 LO 6 UP 25 - 1 LO 25 - 1 LO 6 UP",
   "25 - 1 LO 25 - 1 LO 6 UP 25 - 1 LO 25 - 1 LO 6 UP 25 - 1 LO 25 - 1 LO 6 UP 1 LO 1 - 2 NU 50",
   "- 512 EX 55 - 4 EX 50 - 8 EX 1 - 14 EX 1 - 3 ST 1 - 18 EX 5 - 1 EX 15 - 1104 LO 10 LE 1 LO",
   "20 - 6 LO 6 - 213 EX 7 - 1 EX 17 - 2 EX 7 - 1 EX 2 - 1 EX 5 - 5 LO 62 - 33 EX 1 - 112 LE 45",
   "- 3 EX 7 LE 7 - 2 NU 10 - 4 LE 1 - 321 LE 30 EX 1 - 17 LE 44 EX 4 NU 10 - 470 LE 28 EX 4 NU",
   "10 - 214 LE 30 EX 2 LE 1 NU 10 - 485 LE 7 - 1 LE 4 - 1 LE 2 - 1 LE 15 - 1 LE 197 - 11 EX 7 -",
   "41 UP 34 LO 34 EX 7 LE 1 - 4 NU 10 - 1190 LE 4 - 1 LE 27 - 1 LE 2 - 1 LE 1 - 2 LE 1 - 1 LE",
   "10 - 1 LE 4 - 1 LE 1 - 1 LE 1 - 6 LE 1 - 4 LE 1 - 1 LE 1 - 1 LE 1 - 1 LE 3 - 1 LE 2 - 1 LE 1",
   "- 2 LE 1 - 1 LE 1 - 1 LE 1 - 1 LE 1 - 1 LE 1 - 1 LE 2 - 1 LE 1 - 2 LE 4 - 1 LE 7 - 1 LE 4 -",
   "1 LE 4 - 1 LE 1 - 1 LE 10 - 1 LE 17 - 5 LE 3 - 1 LE 5 - 1 LE 17 - 628 UP 26 - 6 UP 26 - 6 UP",
   "26 - 1260 CL 3 - 1399 NU 10 - 1030 LE 42720 - 32 LE 4154 - 6 LE 222 - 2 LE 5762 - 14 LE 7473",
   "- 15 LE 622 - 2466 LE 542 - 1506 LE 4939 - 5 LE 4192 - 711761 FO 1 - 30 EX 96 - 128 EX 240 -",
   "196112"]

/-! ## All three -/

/-- The names of the values, short and long. -/
def breakNames : Cutting → List (String × String)
  | .graphemes => graphemeBreakNames
  | .words => wordBreakNames
  | .sentences => sentenceBreakNames

/-- Which characters have which value. -/
def breakRuns : Cutting → List ValueRun
  | .graphemes => graphemeBreakRuns
  | .words => wordBreakRuns
  | .sentences => sentenceBreakRuns

/-- The code points that play a part where a text is cut. -/
def break? (cutting : Cutting) (name : Text) : Option CharRanges :=
  ((breakNames cutting).find? (·.1.toList == name)).map fun entry =>
    runsWith (breakRuns cutting) [entry.2.toList]

end CatchmentLint.Unicode
