import DefOut.Lexeme

set_option autoImplicit false

/-!
The generated C++ program: a fixed preamble with the number type the statements are written
against, the translated lexemes, and a fixed end. Its `%` computes a power, which is what the
language's `^` becomes.
-/
namespace DefOut

def preamble : Bytes :=
  "#include <iostream>\n" ++
  "#include <cmath>\n" ++
  "#include <ctgmath>\n" ++
  "using namespace std;\n" ++
  "\n" ++
  "class Number\n" ++
  "\x7b\n" ++
  "  public:\n" ++
  "    double val;\n" ++
  "    Number operator%(const Number& n) \x7b return pow(val, n.val); \x7d\n" ++
  "    Number operator%(const double& d) \x7b return pow(val, d); \x7d\n" ++
  "\n" ++
  "    Number operator*(const Number& n) \x7b return val * n.val; \x7d\n" ++
  "    Number operator*(const double& d) \x7b return val * d; \x7d\n" ++
  "\n" ++
  "    Number operator/(const Number& n) \x7b return val / n.val; \x7d\n" ++
  "    Number operator/(const double& d) \x7b return val / d; \x7d\n" ++
  "\n" ++
  "    Number operator+(const Number& n) \x7b return val + n.val; \x7d\n" ++
  "    Number operator+(const double& d) \x7b return val + d; \x7d\n" ++
  "\n" ++
  "    Number operator-(const Number& n) \x7b return val - n.val; \x7d\n" ++
  "    Number operator-(const double& d) \x7b return val - d; \x7d\n" ++
  "\n" ++
  "    Number(float val) \x7b this->val = val; \x7d\n" ++
  "\x7d;\n" ++
  "\n" ++
  "ostream &operator<<(ostream &os, const Number &num) \x7b return os << num.val; \x7d\n" ++
  "\n" ++
  "int main()\n" ++
  "\x7b\n" ++
  "\t"

def postamble : Bytes :=
  ";\n    return 0;\n\x7d"

def markOutputEnd (line : Bytes) : Bytes :=
  if line.startsWith Lexeme.output then line ++ " " ++ Lexeme.endOutput else line

def markOutputEnds (lexemes : Bytes) : Bytes :=
  Bytes.joinWith [Lexeme.separator]
    ((Bytes.splitOn Lexeme.separator lexemes).map markOutputEnd)

def translate (t : Table) (lexemes : Bytes) : Bytes :=
  t.targets.foldl (fun text m => Bytes.replaceAll m.source m.target text)
    (markOutputEnds lexemes)

def generate (t : Table) (lexemes : Bytes) : Bytes :=
  preamble ++ " " ++ translate t lexemes ++ " " ++ postamble

end DefOut
