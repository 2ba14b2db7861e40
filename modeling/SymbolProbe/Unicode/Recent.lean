import SymbolProbe.Unicode.CodeSet

/-!
# Recent characters

The tables of this library hold the characters of version 16.0 of the standard. These are the
characters that version 17.0 added to some of them. Patterns do not know them, but they may stand in
the names of groups, and are shown as they are.
-/

namespace SymbolProbe.Unicode

/-- The recent letters. -/
def recentLetters : CodeSet := .ofText
  "88f c5c cdc a7ce-a7cf a7d2 a7d4 a7f1 10940-10959 10ec5-10ec7 10efa-10efb 11b60-11b67 11db0-11ddb
   16ea0-16eb8 16ebb-16ed3 16ff2-16ff6 187f8-187ff 18d09-18d1e 18d80-18df2 1e6c0-1e6de 1e6e0-1e6f5
   1e6fe-1e6ff 2b73a-2b73f 2cea2-2cead 323b0-33479"

/-- The recent digits and numbers. -/
def recentNumbers : CodeSet := .ofText "11de0-11de9 16ff4-16ff6"

/-- The recent characters that can be seen by themselves. -/
def recentVisible : CodeSet := .ofText
  "88f c5c cdc 20c1 2b96 a7ce-a7cf a7d2 a7d4 a7f1 fbc3-fbd2 fd90-fd91 fdc8-fdce 10940-10959
   10ec5-10ec7 10ed0-10ed8 11b61 11b65 11b67 11db0-11ddb 11de0-11de9 16ea0-16eb8 16ebb-16ed3
   16ff2-16ff6 187f8-187ff 18d09-18d1e 18d80-18df2 1ccfa-1ccfc 1ceba-1ced0 1cee0-1cef0 1e6c0-1e6de
   1e6e0-1e6e2 1e6e4-1e6e5 1e6e7-1e6ed 1e6f0-1e6f4 1e6fe-1e6ff 1f6d8 1f777-1f77a 1f8d0-1f8d8
   1fa54-1fa57 1fa8a 1fa8e 1fac8 1facd 1faea 1faef 1fbfa 2b73a-2b73f 2cea2-2cead 323b0-33479"

end SymbolProbe.Unicode
