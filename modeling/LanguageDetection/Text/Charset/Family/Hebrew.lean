import LanguageDetection.Text.Charset.Family

namespace LanguageDetection.Text.Charset.Family

def hebrewNeverMeet (former latter : Char) : Bool :=
  "\u05dd\u05df\u05e5\u05e3\u05da".contains former && '\u05d0' ≤ latter && latter ≤ '\u05ea'

def hebrew : Family := .nonLatin
  ("\u05d0\u05d1\u05d2\u05d3\u05d4\u05d5\u05d6\u05d7\u05d8\u05d9\u05da\u05db\u05dc\u05dd\u05de"
    ++ "\u05df\u05e0\u05e1\u05e2\u05e3\u05e4\u05e5\u05e6\u05e7\u05e8\u05e9\u05ea\u05b0\u05b1\u05b2"
    ++ "\u05b3\u05b4\u05b5\u05b6\u05b7\u05b8\u05b9\u05bb\u05bc\u05bd\u05bf\u05c1\u05c2\u05f0\u05f1"
    ++ "\u05f2") "
_\u05d4C\u05d0F\u05d1G\u05d5H\u05dcH\u05deH\u05e9H\u05d9K\u05dbK\u05e2K\u05e7K\u05d7L\u05e1L
_\u05d2M\u05e0M\u05e4M\u05e8M\u05eaM\u05d3N\u05d6O\u05d8P\u05e6R
\u05d0\u05d5J\u05d9K\u05eaK_L\u05dcL\u05d7M\u05e0N\u05e8N\u05d1O\u05d4O\u05d3Q\u05ddQ\u05e9Q
\u05d0\u05deS\u05e1S\u05e4S\u05d8T\u05dfT\u05e7T\u05d2V\u05d6V\u05daW
\u05d1\u05d9J_L\u05d5L\u05e8L\u05d0N\u05d3O\u05e0O\u05e2O\u05eaO\u05dcP\u05e5P\u05d4Q\u05d7Q
\u05d1\u05e7Q\u05d2R\u05e9R\u05deS\u05d6V\u05dbV\u05e6V\u05d1X\u05dfX\u05e1X
\u05d2\u05d9N_O\u05d5O\u05dcP\u05e8S\u05d3T\u05e0T\u05d0V\u05d1V\u05d4V\u05d6V\u05e9V\u05eaV
\u05d3\u05d5K\u05d9K_M\u05eaO\u05e8P\u05e9P\u05d4Q\u05ddS\u05e2T\u05d1U\u05dcU\u05e4V\u05e1W
\u05d3\u05d0X\u05d2X\u05e0X
\u05d4_D\u05d9J\u05deL\u05d0M\u05d5M\u05eaM\u05d1N\u05e7N\u05e9N\u05e8O\u05e0P\u05e2P\u05dcQ
\u05d4\u05d3S\u05d7S\u05e1S\u05ddT\u05d8V\u05dbV\u05e4V\u05d2X\u05dfX\u05e6X
\u05d5\u05eaG_H\u05dcI\u05e8I\u05e0J\u05d1K\u05d3K\u05d0L\u05deL\u05dfL\u05e9L\u05d9M\u05dbM
\u05d5\u05e1M\u05d5N\u05e4N\u05e2O\u05e6O\u05e7O\u05d4R\u05ddR\u05d2S\u05d6S\u05d8S\u05e5S\u05d7T
\u05d5\u05daT
\u05d6\u05e8P\u05d9Q\u05deQ\u05dbR_S\u05d5S\u05d4T\u05e2W\u05d0X
\u05d7\u05d5L\u05d9L\u05e8M\u05e7O\u05d3P\u05dcR_S\u05d6S\u05eaS\u05deT\u05d1U\u05ddV\u05e1V
\u05d7\u05e6V\u05e9V\u05e0X
\u05d8\u05d5N\u05d9N_P\u05d4P\u05e8R\u05e0S\u05dfT\u05d0V\u05d8V\u05e2V\u05e4V\u05dcW\u05e7W
\u05d8\u05deX\u05e1X
\u05d9_F\u05ddF\u05eaI\u05d4J\u05d9J\u05e0J\u05e8J\u05d0K\u05d5K\u05dcL\u05dfM\u05d3N\u05e7N
\u05d9\u05e9N\u05d1O\u05d8O\u05deO\u05e1P\u05e2Q\u05d2R\u05e4R\u05dbS\u05d7U\u05daU\u05e6U\u05d6W
\u05da_N
\u05db\u05dcM\u05d5N\u05e0N\u05e9Q\u05d1S\u05d3S\u05d9S\u05d4T\u05dfT\u05d6U\u05d0V\u05e4V\u05ddW
\u05db\u05e1W
\u05dc_H\u05d9J\u05d4L\u05d5L\u05d0M\u05d7N\u05deN\u05d3O\u05e4P\u05e9P\u05e0Q\u05e7Q\u05d1S
\u05dc\u05dbS\u05e3S\u05ddT\u05e1T\u05d6U\u05daU\u05dfU\u05e8U\u05d8V\u05e6V\u05dcW\u05e2W\u05d2X
\u05dd_F
\u05de\u05d5K\u05d9K\u05e9L\u05e8M\u05d0O\u05e1O\u05d3P\u05d4P\u05dcP\u05dfP\u05d7Q\u05deQ\u05e0Q
\u05de\u05e2Q\u05d1S\u05d6S\u05d8T\u05dbT\u05eaU\u05d2V\u05e7V\u05e4X\u05e6X
\u05df_H
\u05e0\u05d9G\u05d5I\u05d4L\u05eaN\u05d3O\u05d2P\u05d8P\u05e1S\u05d6T\u05e4T\u05d0U\u05d1U\u05dcU
\u05e0\u05e7U\u05deV\u05e2V\u05d7W\u05e8X
\u05e1\u05d9M\u05e4O_P\u05d5P\u05d8P\u05e7P\u05e8R\u05deS\u05e0T\u05d0U\u05d1U\u05d2U\u05d4U
\u05e1\u05e3U\u05eaU\u05daV\u05dcW
\u05e2\u05dcM_O\u05d5O\u05d9O\u05e8O\u05d4P\u05d1R\u05e9S\u05eaS\u05deT\u05ddU\u05d3V\u05e0V
\u05e2\u05e1W
\u05e3_P
\u05e4\u05e8K\u05d5M\u05d9N\u05e0Q\u05d0R\u05d4R\u05eaR\u05d7T\u05dcT\u05e7V\u05d8X
\u05e5_N
\u05e6\u05d5Q\u05d9Q\u05d0S_T\u05e4T\u05e8T\u05d4U\u05d2V\u05eaV\u05d1W\u05e2W\u05e3W
\u05e7\u05d5J\u05d9L_N\u05e8O\u05d8P\u05d1Q\u05dcQ\u05e0Q\u05d4R\u05d0U\u05e1V\u05e6V\u05deX
\u05e7\u05e9X
\u05e8_G\u05d5I\u05d9J\u05d0N\u05e6O\u05d1P\u05d2P\u05d7P\u05d4Q\u05dbQ\u05e7Q\u05eaQ\u05d3R
\u05e8\u05d8R\u05e0R\u05deS\u05e1S\u05daU\u05e5U\u05e4W\u05dcX\u05dfX\u05e9X
\u05e9\u05dcK\u05d5L\u05d1M_N\u05d9N\u05deN\u05e0N\u05eaO\u05e4P\u05e8P\u05d0Q\u05d4Q\u05d7R
\u05e9\u05e2R\u05dbS\u05ddT\u05d2U\u05e7V\u05d8X
\u05ea_E\u05d5J\u05d9K\u05d4P\u05d7Q\u05deQ\u05e8Q\u05dcS\u05e0T\u05d0V\u05d1V\u05d2V\u05ddW
\u05ea\u05e4W" hebrewNeverMeet

end LanguageDetection.Text.Charset.Family
