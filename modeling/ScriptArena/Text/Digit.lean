import ScriptArena.Text.CodeSet

namespace ScriptArena.Text

def decimalSet : CodeSet := .ofTable
  "30-39 660-669 6F0-6F9 7C0-7C9 966-96F 9E6-9EF A66-A6F AE6-AEF B66-B6F BE6-BEF C66-C6F CE6-CEF
  D66-D6F DE6-DEF E50-E59 ED0-ED9 F20-F29 1040-1049 1090-1099 17E0-17E9 1810-1819 1946-194F
  19D0-19D9 1A80-1A89 1A90-1A99 1B50-1B59 1BB0-1BB9 1C40-1C49 1C50-1C59 A620-A629 A8D0-A8D9
  A900-A909 A9D0-A9D9 A9F0-A9F9 AA50-AA59 ABF0-ABF9 FF10-FF19 104A0-104A9 10D30-10D39 11066-1106F
  110F0-110F9 11136-1113F 111D0-111D9 112F0-112F9 11450-11459 114D0-114D9 11650-11659 116C0-116C9
  11730-11739 118E0-118E9 11950-11959 11C50-11C59 11D50-11D59 11DA0-11DA9 16A60-16A69 16AC0-16AC9
  16B50-16B59 1D7CE-1D7FF 1E140-1E149 1E2F0-1E2F9 1E950-1E959 1FBF0-1FBF9"

def digitSet : CodeSet := .ofTable
  "30-39 B2-B3 B9 660-669 6F0-6F9 7C0-7C9 966-96F 9E6-9EF A66-A6F AE6-AEF B66-B6F BE6-BEF C66-C6F
  CE6-CEF D66-D6F DE6-DEF E50-E59 ED0-ED9 F20-F29 1040-1049 1090-1099 1369-1371 17E0-17E9
  1810-1819 1946-194F 19D0-19DA 1A80-1A89 1A90-1A99 1B50-1B59 1BB0-1BB9 1C40-1C49 1C50-1C59 2070
  2074-2079 2080-2089 2460-2468 2474-247C 2488-2490 24EA 24F5-24FD 24FF 2776-277E 2780-2788
  278A-2792 A620-A629 A8D0-A8D9 A900-A909 A9D0-A9D9 A9F0-A9F9 AA50-AA59 ABF0-ABF9 FF10-FF19
  104A0-104A9 10A40-10A43 10D30-10D39 10E60-10E68 11052-1105A 11066-1106F 110F0-110F9 11136-1113F
  111D0-111D9 112F0-112F9 11450-11459 114D0-114D9 11650-11659 116C0-116C9 11730-11739 118E0-118E9
  11950-11959 11C50-11C59 11D50-11D59 11DA0-11DA9 16A60-16A69 16AC0-16AC9 16B50-16B59 1D7CE-1D7FF
  1E140-1E149 1E2F0-1E2F9 1E950-1E959 1F100-1F10A 1FBF0-1FBF9"

def numericSet : CodeSet := .ofTable
  "30-39 B2-B3 B9 BC-BE 660-669 6F0-6F9 7C0-7C9 966-96F 9E6-9EF 9F4-9F9 A66-A6F AE6-AEF B66-B6F
  B72-B77 BE6-BF2 C66-C6F C78-C7E CE6-CEF D58-D5E D66-D78 DE6-DEF E50-E59 ED0-ED9 F20-F33
  1040-1049 1090-1099 1369-137C 16EE-16F0 17E0-17E9 17F0-17F9 1810-1819 1946-194F 19D0-19DA
  1A80-1A89 1A90-1A99 1B50-1B59 1BB0-1BB9 1C40-1C49 1C50-1C59 2070 2074-2079 2080-2089 2150-2182
  2185-2189 2460-249B 24EA-24FF 2776-2793 2CFD 3007 3021-3029 3038-303A 3192-3195 3220-3229
  3248-324F 3251-325F 3280-3289 32B1-32BF 3405 3483 382A 3B4D 4E00 4E03 4E07 4E09 4E5D 4E8C 4E94
  4E96 4EBF-4EC0 4EDF 4EE8 4F0D 4F70 5104 5146 5169 516B 516D 5341 5343-5345 534C 53C1-53C4 56DB
  58F1 58F9 5E7A 5EFE-5EFF 5F0C-5F0E 5F10 62FE 634C 67D2 6F06 7396 767E 8086 842C 8CAE 8CB3 8D30
  9621 9646 964C 9678 96F6 A620-A629 A6E6-A6EF A830-A835 A8D0-A8D9 A900-A909 A9D0-A9D9 A9F0-A9F9
  AA50-AA59 ABF0-ABF9 F96B F973 F978 F9B2 F9D1 F9D3 F9FD FF10-FF19 10107-10133 10140-10178
  1018A-1018B 102E1-102FB 10320-10323 10341 1034A 103D1-103D5 104A0-104A9 10858-1085F 10879-1087F
  108A7-108AF 108FB-108FF 10916-1091B 109BC-109BD 109C0-109CF 109D2-109FF 10A40-10A48 10A7D-10A7E
  10A9D-10A9F 10AEB-10AEF 10B58-10B5F 10B78-10B7F 10BA9-10BAF 10CFA-10CFF 10D30-10D39 10E60-10E7E
  10F1D-10F26 10F51-10F54 10FC5-10FCB 11052-1106F 110F0-110F9 11136-1113F 111D0-111D9 111E1-111F4
  112F0-112F9 11450-11459 114D0-114D9 11650-11659 116C0-116C9 11730-1173B 118E0-118F2 11950-11959
  11C50-11C6C 11D50-11D59 11DA0-11DA9 11FC0-11FD4 12400-1246E 16A60-16A69 16AC0-16AC9 16B50-16B59
  16B5B-16B61 16E80-16E96 1D2E0-1D2F3 1D360-1D378 1D7CE-1D7FF 1E140-1E149 1E2F0-1E2F9 1E8C7-1E8CF
  1E950-1E959 1EC71-1ECAB 1ECAD-1ECAF 1ECB1-1ECB4 1ED01-1ED2D 1ED2F-1ED3D 1F100-1F10C 1FBF0-1FBF9
  20001 20064 200E2 20121 2092A 20983 2098C 2099C 20AEA 20AFD 20B19 22390 22998 23B1B 2626D 2F890"

-- The value of a decimal digit of any script.
def decimalValue? (c : Char) : Option Nat :=
  if '0' ≤ c ∧ c ≤ '9' then some (c.toNat - 48)
  else if c.toNat < 128 then none
  else (decimalSet.spans.find? (·.contains c.toNat)).map fun s => (c.toNat - s.first) % 10

def isDecimal (c : Char) : Bool := (decimalValue? c).isSome

-- Decimal digits and the digits that do not stand in positional numerals, such as superscripts.
def isDigit (c : Char) : Bool :=
  if c.toNat < 128 then '0' ≤ c && c ≤ '9' else digitSet.contains c

-- Anything with a numeric value, such as vulgar fractions and ideographic numbers.
def isNumeric (c : Char) : Bool :=
  if c.toNat < 128 then '0' ≤ c && c ≤ '9' else numericSet.contains c

theorem decimalValue?_of_ascii {c : Char} (low : '0' ≤ c) (high : c ≤ '9') :
    decimalValue? c = some (c.toNat - 48) := by
  simp [decimalValue?, low, high]

end ScriptArena.Text
