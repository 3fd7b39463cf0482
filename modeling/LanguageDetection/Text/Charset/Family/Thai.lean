import LanguageDetection.Text.Charset.Family

namespace LanguageDetection.Text.Charset.Family

/-- Whether two letters never meet: a vowel that is written first needs a consonant, and of the
signs above and below consonants there are no two that are not listed. -/
def thaiNeverMeet (former latter : Char) : Bool :=
  (isLeading former && (isLeading latter || isSign latter || "\u0e30\u0e32\u0e33".contains latter))
    || (isSign former && isSign latter)
where
  isLeading (c : Char) : Bool := '\u0e40' ≤ c && c ≤ '\u0e44'
  isSign (c : Char) : Bool :=
    c == '\u0e31' || ('\u0e34' ≤ c && c ≤ '\u0e3a') || ('\u0e47' ≤ c && c ≤ '\u0e4d')

def thai : Family := .nonLatin
  ("\u0e01\u0e02\u0e03\u0e04\u0e05\u0e06\u0e07\u0e08\u0e09\u0e0a\u0e0b\u0e0c\u0e0d\u0e0e\u0e0f"
    ++ "\u0e10\u0e11\u0e12\u0e13\u0e14\u0e15\u0e16\u0e17\u0e18\u0e19\u0e1a\u0e1b\u0e1c\u0e1d\u0e1e"
    ++ "\u0e1f\u0e20\u0e21\u0e22\u0e23\u0e24\u0e25\u0e26\u0e27\u0e28\u0e29\u0e2a\u0e2b\u0e2c\u0e2d"
    ++ "\u0e2e\u0e2f\u0e30\u0e31\u0e32\u0e33\u0e34\u0e35\u0e36\u0e37\u0e38\u0e39\u0e3a\u0e40\u0e41"
    ++ "\u0e42\u0e43\u0e44\u0e45\u0e46\u0e47\u0e48\u0e49\u0e4a\u0e4b\u0e4c\u0e4d\u0e4e") "
_\u0e40H\u0e41M\u0e01N\u0e04O\u0e21O\u0e2aO\u0e2dO\u0e42O\u0e19P\u0e1bP\u0e2bP\u0e1eQ\u0e14R
_\u0e17R\u0e25R\u0e08S\u0e15S\u0e1aS\u0e1cS\u0e27S\u0e02T\u0e0bT\u0e23T\u0e44T\u0e0aU\u0e1fU
_\u0e20U\u0e22U\u0e43U\u0e16V\u0e2eX
\u0e01\u0e32K_M\u0e23M\u0e31O\u0e40P\u0e34Q\u0e35Q\u0e17S\u0e25S\u0e46T\u0e27U\u0e2aU\u0e33U
\u0e01\u0e48U\u0e49U\u0e14V\u0e21V\u0e4cV\u0e29W\u0e2dW\u0e01X\u0e0bX\u0e15X\u0e39X\u0e47X
\u0e02\u0e2dO\u0e49P\u0e32U\u0e35V
\u0e04\u0e23M\u0e38Q\u0e19R\u0e33R\u0e37R\u0e27S\u0e2dS\u0e32T\u0e40U\u0e01V\u0e34W\u0e48W\u0e4cW
\u0e04\u0e21X\u0e35X\u0e39X\u0e42X
\u0e07\u0e40N_O\u0e01P\u0e04P\u0e2bP\u0e2aR\u0e1bS\u0e42T\u0e02U\u0e2dU\u0e44U\u0e19V\u0e1eV
\u0e07\u0e21V\u0e32V\u0e43V\u0e09W\u0e17X
\u0e08\u0e30S\u0e31S\u0e33S\u0e2dT\u0e19U\u0e35U\u0e04V\u0e32V\u0e34V\u0e1eX
\u0e09\u0e31T\u0e35V
\u0e0a\u0e32O\u0e35R\u0e49R\u0e37S\u0e2dU_V\u0e01V\u0e34V\u0e38V\u0e48V\u0e31W
\u0e0b\u0e32Q\u0e35R\u0e34T\u0e19U\u0e2dV\u0e31W\u0e40W_X\u0e39X\u0e42X\u0e4cX
\u0e10\u0e32T\u0e0aW
\u0e13\u0e32S_U\u0e4cV\u0e41W\u0e44W
\u0e14_Q\u0e32Q\u0e35Q\u0e2dS\u0e4cS\u0e34T\u0e39T\u0e47T\u0e21U\u0e49U\u0e07V\u0e0aV\u0e1eV
\u0e14\u0e25V\u0e43V\u0e04W\u0e15W\u0e19W\u0e23W\u0e31W\u0e27X\u0e40X
\u0e15\u0e34N\u0e23P\u0e32P\u0e2dQ\u0e49Q\u0e31R\u0e48R\u0e4cR\u0e30S_T\u0e01T\u0e35W\u0e39W
\u0e15\u0e40W\u0e2aX\u0e38X
\u0e16\u0e32R\u0e49U\u0e19V
\u0e17\u0e35N\u0e22P\u0e31Q\u0e23R\u0e32R\u0e28S\u0e33S\u0e18T\u0e1eV\u0e30V\u0e34V\u0e29W\u0e1aX
\u0e17\u0e2dX\u0e38X
\u0e18\u0e34T\u0e4cT\u0e32V
\u0e19_K\u0e40M\u0e15N\u0e2dN\u0e32N\u0e35N\u0e17O\u0e31O\u0e14P\u0e04Q\u0e21Q\u0e34Q\u0e49Q
\u0e19\u0e19R\u0e2aR\u0e0aS\u0e20S\u0e2bS\u0e38S\u0e43S\u0e27T\u0e41T\u0e1aU\u0e23U\u0e42U\u0e46V
\u0e19\u0e48V\u0e01W\u0e08W\u0e0bW\u0e18X\u0e37X\u0e44X
\u0e1a\u0e32P\u0e23Q_R\u0e2dS\u0e38S\u0e04T\u0e25T\u0e35T\u0e40T\u0e31U\u0e34U\u0e39U\u0e08V
\u0e1a\u0e19V\u0e1eV\u0e41V\u0e1bW\u0e49W\u0e1aX
\u0e1b\u0e23L\u0e47P\u0e35Q\u0e14S\u0e32T\u0e01V\u0e2dV\u0e25W\u0e49W_X\u0e19X
\u0e1c\u0e25S\u0e39T\u0e48T\u0e34V\u0e21W
\u0e1d\u0e19W
\u0e1e\u0e34R\u0e23S\u0e25T\u0e1aU\u0e21U\u0e39U\u0e48U\u0e18V\u0e22V\u0e37V\u0e27W\u0e31W\u0e4cW
\u0e1e\u0e19X\u0e32X
\u0e1f\u0e49R\u0e23U\u0e34W_X\u0e25X\u0e2dX
\u0e20\u0e32O\u0e39S
\u0e21\u0e32K\u0e48M\u0e35N_Q\u0e19Q\u0e2dQ\u0e34Q\u0e37Q\u0e39Q\u0e2bR\u0e40R\u0e04S\u0e1eS
\u0e21\u0e27S\u0e0aT\u0e15T\u0e23T\u0e01U\u0e17U\u0e31U\u0e08V\u0e41V\u0e02W\u0e1aW\u0e1cW\u0e42W
\u0e21\u0e44W\u0e2aX
\u0e22_M\u0e19P\u0e32P\u0e39P\u0e40R\u0e4cR\u0e07S\u0e2dS\u0e23T\u0e15U\u0e27U\u0e41V\u0e48V
\u0e22\u0e1bW\u0e38W\u0e44W\u0e34X
\u0e23\u0e4cJ\u0e32K\u0e30L\u0e31M\u0e35M\u0e34N_P\u0e07R\u0e21R\u0e2dR\u0e38R\u0e23S\u0e41S
\u0e23\u0e10T\u0e15T\u0e39T\u0e17U\u0e27U\u0e2aU\u0e37U\u0e49U\u0e13V\u0e02W\u0e19W\u0e40W\u0e44W
\u0e23\u0e01X\u0e16X\u0e1bX\u0e28X
\u0e25\u0e32H\u0e30M\u0e31N\u0e25Q\u0e01R\u0e34R\u0e35R_S\u0e47S\u0e49S\u0e19T\u0e39T\u0e15U
\u0e25\u0e27U\u0e40U\u0e48U\u0e4cU\u0e2dV\u0e02W\u0e1aW\u0e1cW\u0e2aW\u0e42W\u0e07X\u0e14X\u0e21X
\u0e25\u0e22X\u0e37X
\u0e27\u0e25K\u0e32O\u0e31P\u0e19Q\u0e34Q_R\u0e07S\u0e40T\u0e48T\u0e35U\u0e01V\u0e17V\u0e2dV
\u0e27\u0e02W\u0e1eW\u0e15X\u0e22X\u0e42X
\u0e28\u0e31T\u0e23V\u0e2bW\u0e44W\u0e32X
\u0e29\u0e32Q\u0e22V\u0e04W
\u0e2a_R\u0e23R\u0e32R\u0e21S\u0e27S\u0e34S\u0e4cS\u0e07T\u0e15T\u0e31T\u0e40T\u0e14U\u0e33U
\u0e2a\u0e16V\u0e35V\u0e01W\u0e19W\u0e38W\u0e42W\u0e2bX
\u0e2b\u0e19N\u0e25N\u0e21O\u0e32Q\u0e23S\u0e48V\u0e4cV\u0e49X
\u0e2d\u0e07L\u0e19L\u0e23M\u0e22N\u0e32O_P\u0e01P\u0e2dP\u0e34P\u0e21Q\u0e25Q\u0e31R\u0e40R
\u0e2d\u0e2aS\u0e35S\u0e38S\u0e1aT\u0e04U\u0e27U\u0e42U\u0e48U\u0e20V\u0e41V\u0e1fW\u0e14X\u0e15X
\u0e2d\u0e39X
\u0e2e\u0e32X
\u0e30\u0e40N\u0e21S\u0e27S\u0e41S\u0e19T\u0e08U\u0e0aV\u0e16V\u0e1aV_W\u0e09W\u0e20W\u0e2aW
\u0e30\u0e22X
\u0e31\u0e19K\u0e07N\u0e1aN\u0e01P\u0e49P\u0e27Q\u0e22R\u0e14S\u0e10T\u0e2aT\u0e21U\u0e25U\u0e48U
\u0e31\u0e15V\u0e1eV
\u0e32_J\u0e19J\u0e23J\u0e21K\u0e07M\u0e40M\u0e15N\u0e01O\u0e22O\u0e25O\u0e0aP\u0e27P\u0e04Q
\u0e32\u0e14Q\u0e29Q\u0e2dQ\u0e44Q\u0e08R\u0e1aR\u0e42R\u0e13S\u0e0bT\u0e17T\u0e1bT\u0e1eT\u0e2aT
\u0e32\u0e2bT\u0e30T\u0e41V\u0e43V\u0e28W\u0e46W\u0e2eX
\u0e33\u0e16T\u0e19V\u0e25V\u0e2bV\u0e07W\u0e0aW\u0e2aW\u0e44W\u0e40X
\u0e34\u0e19M\u0e01O\u0e14P_R\u0e17R\u0e2aR\u0e40R\u0e48R\u0e15S\u0e25S\u0e27S\u0e21T\u0e07U
\u0e34\u0e23U\u0e28U\u0e42U\u0e4cU\u0e1aV\u0e20V\u0e2dV\u0e0aW\u0e1bX
\u0e35\u0e22J\u0e48L_M\u0e49Q\u0e40S\u0e01T\u0e19T\u0e2aT\u0e2dT\u0e0aU\u0e17U\u0e1bV\u0e23V
\u0e35\u0e41W\u0e42W\u0e0bX\u0e21X\u0e27X
\u0e37\u0e2dN\u0e48O
\u0e38\u0e13P\u0e23R\u0e01S\u0e14U\u0e07V\u0e1bV\u0e29V\u0e15W\u0e19W\u0e17X\u0e21X\u0e42X
\u0e39\u0e48N\u0e25S\u0e40S\u0e21T\u0e49T_U\u0e14U\u0e23V\u0e01W\u0e19W\u0e2bW\u0e1bX
\u0e40\u0e27J\u0e23L\u0e01M\u0e1bN\u0e21N\u0e25N\u0e0bO\u0e17O\u0e02P\u0e1aP\u0e14Q\u0e2dQ\u0e15R
\u0e40\u0e19R\u0e08S\u0e0aS\u0e1eS\u0e04T\u0e22U\u0e2aU\u0e2bU\u0e09V\u0e1fW\u0e2eW\u0e28X
\u0e41\u0e25L\u0e21Q\u0e1fR\u0e2dR\u0e01S\u0e1bT\u0e2bU\u0e2aV\u0e04W\u0e14X\u0e1eX
\u0e42\u0e23P\u0e01R\u0e04T\u0e1bT\u0e25T\u0e2dT\u0e14U\u0e15U\u0e17U\u0e1aU\u0e21U\u0e0bV\u0e19V
\u0e42\u0e27X
\u0e43\u0e19O\u0e2bS\u0e0aT\u0e15T\u0e08W
\u0e44\u0e21O\u0e17Q\u0e14U\u0e1bV\u0e2bV\u0e15X\u0e19X\u0e1aX\u0e1fX
\u0e46_Q
\u0e47\u0e19O\u0e01Q\u0e08X
\u0e48\u0e2dL\u0e32M\u0e21P\u0e07Q_R\u0e40S\u0e43S\u0e19T\u0e1aT\u0e04U\u0e1bU\u0e27U\u0e2bU
\u0e48\u0e01V\u0e15V\u0e1cV\u0e22V\u0e1dW\u0e1eW
\u0e49\u0e32L\u0e2dM\u0e07Q\u0e21R_S\u0e19T\u0e27U\u0e43U\u0e15V\u0e40V\u0e44V\u0e02W
\u0e4c_L\u0e40O\u0e41R\u0e2dS\u0e17T\u0e2aT\u0e01U\u0e15V\u0e1cV\u0e19W\u0e42W\u0e04X\u0e08X
\u0e4c\u0e0bX\u0e14X\u0e21X\u0e23X\u0e44X" thaiNeverMeet

end LanguageDetection.Text.Charset.Family
