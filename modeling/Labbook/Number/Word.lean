namespace Labbook

namespace Word

def bound32 : Nat := 0x100000000

def bound64 : Nat := 0x10000000000000000

end Word

end Labbook
